/-!
# Log lines

A line of the log has a level, the part of the program it comes from, and a text. Parts are named
the way filters and the written log refer to them.
-/

namespace UnityBuild

/-- Levels from the most to the least important. No line of this program has the last one; filters
know it. -/
inductive Level where
  | error
  | warn
  | info
  | debug
  | trace
  deriving DecidableEq, Repr

namespace Level

def all : List Level := [error, warn, info, debug, trace]

def name : Level → String
  | error => "ERROR"
  | warn => "WARN"
  | info => "INFO"
  | debug => "DEBUG"
  | trace => "TRACE"

def rank : Level → Nat
  | error => 1
  | warn => 2
  | info => 3
  | debug => 4
  | trace => 5

theorem mem_all (level : Level) : level ∈ all := by
  cases level <;> decide

end Level

inductive Part where
  | program
  | expansion
  | selfTest
  deriving DecidableEq, Repr

def Part.name : Part → String
  | program => "unified_compdb"
  | expansion => "unified_compdb::unified_source"
  | selfTest => "unified_compdb::self_test"

structure LogLine where
  level : Level
  part : Part
  text : String
  deriving DecidableEq, Repr

/-- The line as it is written, with the time in front. A text of several lines is indented from its
second line on. -/
def LogLine.written (line : LogLine) (time : String) : String :=
  let level := line.level.name.toList ++ List.replicate (5 - line.level.name.length) ' '
  let text := line.text.toList.flatMap fun letter =>
    if letter = '\n' then '\n' :: List.replicate 4 ' ' else [letter]
  "[" ++ time ++ " " ++ String.ofList level ++ " " ++ line.part.name ++ "] "
    ++ String.ofList text ++ "\n"

end UnityBuild
