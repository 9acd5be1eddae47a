import UnityBuild.Log.Filter
import UnityBuild.Run
import UnityBuild.SelfTest
import UnityBuild.Usage

/-!
# The program

The program reads its arguments, and then shows its help or its version, runs the self-tests, or
refines a database. What it prints is text on two streams: help and version on the first, everything
else on the second. It ends with zero, or with one after any failure.
-/

namespace UnityBuild

namespace Program

def version : String := "unified-compdb 0.1.0"

def help : String := "\n".intercalate
  [version,
    "Expands unified sources in compilation databases, for source code indexers",
    "",
    "USAGE:",
    "    unified-compdb [FLAGS] [OPTIONS]",
    "",
    "FLAGS:",
    "    -h, --help         Prints help information",
    "        --self-test    Run the built-in self-tests instead of refining a database",
    "    -V, --version      Prints version information",
    "",
    "OPTIONS:",
    "    -i, --input <input-path>      Compilation database to refine. Defaults to " ++
      "\"compile_commands.json\"",
    "    -o, --output <output-path>    Path of the refined compilation database. Defaults to " ++
      "\"compile_commands.json\" inside",
    "                                  the indexing root",
    "    -r, --root <root-dir>         Indexing root directory, relative file paths are " ++
      "resolved against it. Defaults to the",
    "                                  current directory"]

/-- What a program leaves behind. -/
structure Ending where
  code : Nat
  output : String
  errors : String
  deriving DecidableEq, Repr

/-- What the arguments ask for. -/
inductive Task where
  | stop (ending : Ending)
  | selfTest
  | refine (config : Config)
  deriving DecidableEq, Repr

def task (arguments : List String) : Task :=
  match Options.parse arguments with
  | .error .help => .stop ⟨0, help ++ "\n", ""⟩
  | .error .version => .stop ⟨0, version ++ "\n", ""⟩
  | .error refused => .stop ⟨1, "", refused.message ++ Usage.text arguments⟩
  | .ok options => if options.selfTest then .selfTest else .refine (.ofOptions options)

/-- The lines of a log that pass a filter, as they are written. -/
def written (filter : Filter) (time : String) (log : List LogLine) : String :=
  String.join ((log.filter filter.admits).map (·.written time))

/-- The ending of a program with the given outcome. -/
def ending (filter : Filter) (time : String) (outcome : Outcome Unit) : Ending :=
  match outcome.result with
  | .ok () => ⟨0, "", written filter time outcome.log⟩
  | .error failure => ⟨1, "", written filter time outcome.log ++ failure.report⟩

end Program

/-- Runs the program in a file system. A log filter may be given. -/
def FileSystem.execute (fs : FileSystem) (arguments : List String) (filter : Option String)
    (time : String) (root : Nat → String) : Program.Ending × FileSystem :=
  let (filter, warnings) := Filter.ofVariable filter
  let warned (ending : Program.Ending) : Program.Ending :=
    { ending with errors := String.join warnings ++ ending.errors }
  match Program.task arguments with
  | .stop ending => (warned ending, fs)
  | .selfTest => (warned (Program.ending filter time (SelfTest.runAll fs root)), fs)
  | .refine config =>
    let (outcome, after) := fs.run config
    (warned (Program.ending filter time outcome), after)

end UnityBuild
