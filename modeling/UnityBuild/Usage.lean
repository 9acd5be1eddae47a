import UnityBuild.Options
import UnityBuild.Text.Similarity

/-!
# Usage

Behind a message about wrong arguments stands how the program is used. The options that were met
before are named there, in a fixed order, or all of them in general if there were none. An option
that is not known gets a hint if it is similar to one that is, which then counts as met.
-/

namespace UnityBuild

namespace Scan

/-- The name of a long option, up to an equality sign. -/
def longName? (argument : String) : Option (List Char) :=
  match argument.toList with
  | '-' :: '-' :: rest => some ((rest.dropWhile (· == '-')).takeWhile (· != '='))
  | _ => none

/-- Reads arguments as far as possible, and gives the name of the long option that ended it. -/
def reach (scan : Scan) : List String → Scan × Option (List Char)
  | [] => (scan, none)
  | argument :: rest =>
    if argument = "--" then (scan, none)
    else
      match scan.step argument with
      | .ok next => next.reach rest
      | .error _ => (scan, longName? argument)

def met (scan : Scan) (setting : Setting) : Bool :=
  (scan.given setting).count != 0

end Scan

namespace Usage

/-- The known long options, in the order in which hints look for them. -/
def known : List String :=
  [selfTestFlag, "help", "version"] ++ Setting.all.map (·.long)

/-- The hint at a known option. -/
def hint (name : String) : String :=
  "\n\tDid you mean \x1b[32m--\x1b[0m\x1b[32m" ++ name ++ "\x1b[0m?"

/-- The options that are named in the usage: those that were met, and the one that was hinted at. -/
def named (scan : Scan) (hinted : Option String) : List String :=
  let options := [("help", false, "--help")]
    ++ [Setting.input, .output, .root].map (fun setting =>
      (setting.long, scan.met setting, setting.usage))
    ++ [(selfTestFlag, scan.selfTests != 0, "--" ++ selfTestFlag), ("version", false, "--version")]
  (options.filter fun (name, met, _) => met || hinted == some name).map fun (_, _, usage) => usage

/-- What is printed behind a message about the given arguments. -/
def text (arguments : List String) : String :=
  let (scan, unknown) := Scan.start.reach arguments
  let hinted := unknown.bind (Text.mostSimilar? · known)
  let options := named scan hinted
  (hinted.map hint).getD ""
    ++ "\n\nUSAGE:\n    unified-compdb "
    ++ " ".intercalate (if options.isEmpty then ["[FLAGS]", "[OPTIONS]"] else options)
    ++ "\n\nFor more information try --help\n"

end Usage

end UnityBuild
