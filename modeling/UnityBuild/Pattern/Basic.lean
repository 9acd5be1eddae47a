import UnityBuild.Pattern.Machine
import UnityBuild.Pattern.Meaning
import UnityBuild.Pattern.Parser
import UnityBuild.Pattern.Size

/-!
# Patterns

A pattern is read, understood, and then searched for in texts. Reading may fail on its form, on its
meaning, or on its size.
-/

namespace UnityBuild

structure Pattern where
  machine : Pattern.Machine

namespace Pattern

/-- The meaning of a pattern, or why it has none. -/
def expression? (text : String) : Except Fault Expression := do
  let (expression, _) ← (← Tree.parse text.toList).meaning .standard
  return expression

/-- Reads a pattern, or says why it cannot be used. -/
def parse (text : String) : Except String Pattern :=
  match expression? text with
  | .error fault => .error (fault.report text.toList)
  | .ok expression =>
    if expression.isTooLarge then
      .error ("Compiled regex exceeds size limit of " ++ toString Space.limit ++ " bytes.")
    else .ok ⟨.ofExpression expression⟩

def occursIn (pattern : Pattern) (text : String) : Bool :=
  pattern.machine.occursIn text.toList

end Pattern

end UnityBuild
