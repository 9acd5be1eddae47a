/-!
# Command line options

Three options take a value and may be written long or short; one flag takes none. Arguments are read
from left to right. A value follows its option in the same argument or is the next argument, which
then must not look like an option itself; a single dash does not. `--` ends the options, and nothing
may come behind it.

Asking for help or for the version ends the reading at once, and so does an argument that is not
known. Whether every option has its value, and has it only once, is checked when all arguments were
read.
-/

namespace UnityBuild

inductive Setting where
  | input
  | root
  | output
  deriving DecidableEq, Repr

namespace Setting

def all : List Setting := [input, root, output]

def long : Setting → String
  | input => "input"
  | root => "root"
  | output => "output"

def short : Setting → Char
  | input => 'i'
  | root => 'r'
  | output => 'o'

/-- The name of the value in messages. -/
def value : Setting → String
  | input => "input-path"
  | root => "root-dir"
  | output => "output-path"

/-- How messages name the option. -/
def usage (setting : Setting) : String :=
  "--" ++ setting.long ++ " <" ++ setting.value ++ ">"

theorem mem_all (setting : Setting) : setting ∈ all := by
  cases setting <;> decide

end Setting

def selfTestFlag : String := "self-test"

structure Options where
  input : Option String
  root : Option String
  output : Option String
  selfTest : Bool
  deriving DecidableEq, Repr

/-- The reasons for which no options come out of the arguments. -/
inductive Refused where
  | help
  | version
  | unknown (argument : String)
  | emptyValue (setting : Setting)
  | repeated (setting : Setting)
  | repeatedFlag
  deriving DecidableEq, Repr

namespace Refused

/-- The message about wrong arguments. Help and version are no mistakes and have none. -/
def message : Refused → String
  | help => ""
  | version => ""
  | unknown argument =>
    "error: Found argument '" ++ argument
      ++ "' which wasn't expected, or isn't valid in this context"
  | emptyValue setting =>
    "error: The argument '" ++ setting.usage ++ "' requires a value but none was supplied"
  | repeated setting =>
    "error: The argument '" ++ setting.usage
      ++ "' was provided more than once, but cannot be used multiple times"
  | repeatedFlag =>
    "error: The argument '--" ++ selfTestFlag
      ++ "' was provided more than once, but cannot be used multiple times"

end Refused

/-- How often an option was met, and its values in order. -/
structure Given where
  count : Nat
  values : List String
  deriving DecidableEq, Repr

structure Scan where
  given : Setting → Given
  selfTests : Nat
  /-- The option whose value may be the next argument. -/
  pending : Option Setting

namespace Scan

def start : Scan where
  given := fun _ => ⟨0, []⟩
  selfTests := 0
  pending := none

/-- Meets an option, with its value if it is in the same argument. -/
def meet (scan : Scan) (setting : Setting) (value : Option String) : Scan :=
  let old := scan.given setting
  { scan with
    given := fun other =>
      if other = setting then ⟨old.count + 1, old.values ++ value.toList⟩ else scan.given other
    pending := if value.isSome then none else some setting }

def supply (scan : Scan) (setting : Setting) (value : String) : Scan :=
  let old := scan.given setting
  { scan with
    given := fun other =>
      if other = setting then ⟨old.count, old.values ++ [value]⟩ else scan.given other
    pending := none }

/-- The value behind an option in the same argument. Equality signs in front are not part of it. -/
def attached (text : List Char) : String :=
  String.ofList (text.dropWhile (· == '='))

def long (scan : Scan) (argument : List Char) : Except Refused Scan :=
  let body := argument.dropWhile (· == '-')
  let name := body.takeWhile (· != '=')
  let value := match body.dropWhile (· != '=') with
    | [] => none
    | _ :: text => some (attached text)
  match Setting.all.find? (·.long.toList = name) with
  | some setting => .ok (scan.meet setting value)
  | none =>
    if name = selfTestFlag.toList then
      .ok { scan with selfTests := scan.selfTests + 1, pending := none }
    else if name = "help".toList then .error .help
    else if name = "version".toList then .error .version
    else .error (.unknown ("--" ++ String.ofList name))

/-- Reads the letters behind a single dash. What follows the letter of an option is its value. -/
def short (scan : Scan) (letter : Char) (rest : List Char) : Except Refused Scan :=
  match Setting.all.find? (·.short = letter) with
  | some setting => .ok (scan.meet setting (if rest.isEmpty then none else some (attached rest)))
  | none =>
    if letter = 'h' then .error .help
    else if letter = 'V' then .error .version
    else .error (.unknown (String.ofList ['-', letter]))

/-- Reads an argument that is no option. -/
def plain (scan : Scan) (argument : String) : Except Refused Scan :=
  match scan.pending with
  | some setting => .ok (scan.supply setting argument)
  | none => .error (.unknown argument)

/-- Reads one argument other than `--`. -/
def step (scan : Scan) (argument : String) : Except Refused Scan :=
  match argument.toList with
  | '-' :: '-' :: _ => scan.long argument.toList
  | '-' :: letter :: rest => scan.short letter rest
  | _ => scan.plain argument

def steps (scan : Scan) : List String → Except Refused Scan
  | [] => .ok scan
  | argument :: rest =>
    if argument = "--" then
      match rest with
      | [] => .ok scan
      | extra :: _ => .error (.unknown extra)
    else
      match scan.step argument with
      | .ok next => next.steps rest
      | .error refused => .error refused

/-- The value of an option, which has exactly one if the option was met. -/
def valueOf (scan : Scan) (setting : Setting) : Except Refused (Option String) :=
  let given := scan.given setting
  if given.count = 0 then .ok none
  else if given.values.isEmpty then .error (.emptyValue setting)
  else if given.count = 1 then .ok given.values.head?
  else .error (.repeated setting)

/-- The options, when all arguments were read. An option that still waits for its value is told
first. -/
def finish (scan : Scan) : Except Refused Options := do
  match scan.pending with
  | some setting =>
    if (scan.given setting).values.isEmpty then .error (.emptyValue setting) else pure ()
  | none => pure ()
  let input ← scan.valueOf .input
  let root ← scan.valueOf .root
  let output ← scan.valueOf .output
  if 1 < scan.selfTests then .error .repeatedFlag
  else return ⟨input, root, output, scan.selfTests == 1⟩

end Scan

def Options.parse (arguments : List String) : Except Refused Options := do
  (← Scan.start.steps arguments).finish

end UnityBuild
