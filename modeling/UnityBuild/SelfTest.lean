import UnityBuild.Refinement
import UnityBuild.Text.Quoted

/-!
# Self-tests

Eight small databases whose refinements are known. Each test has an indexing root of its own: an
empty directory, into which it puts its sources before it refines. A source that cannot be written
ends the test with the reason, and nothing is refined then. Otherwise the test passes when the
refinement is what it should be, or fails where it should fail.
-/

namespace UnityBuild

/-- A test: the sources to put into the root, and what to check there. -/
structure SelfTest where
  name : String
  sources : List (String × String)
  check : View → (root : String) → Outcome Unit

namespace SelfTest

def ensure (condition : Bool) (finding : String) : Outcome Unit :=
  if condition then pure () else .fail (.of (.unexpected finding))

def pathIn (root name : String) : String :=
  Path.join root name

def entry (command file : String) : Entry := ⟨"/d", command, file⟩

/-- Entries as they are shown when they are not the expected ones. -/
def shown (entries : List Entry) : String :=
  let one (entry : Entry) : String :=
    "CompileCommand \x7b directory: " ++ Text.quoted entry.directory ++ ", command: "
      ++ Text.quoted entry.command ++ ", file: " ++ Text.quoted entry.file ++ " \x7d"
  "[" ++ ", ".intercalate (entries.map one) ++ "]"

def refined (view : View) (root : String) (entries : List Entry) : Outcome (List Entry) := do
  return (← view.refine root entries).entries

/-- Checks that entries are refined into the expected ones. -/
def expect (view : View) (root : String) (entries expected : List Entry) : Outcome Unit := do
  let found ← refined view root entries
  ensure (found == expected) ("got " ++ shown found)

def expectFailure (view : View) (root : String) (entries : List Entry) (finding : String) :
    Outcome Unit :=
  let outcome := view.refine root entries
  match outcome.result with
  | .ok _ => ⟨outcome.log, .error (.of (.unexpected finding))⟩
  | .error _ => ⟨outcome.log, .ok ()⟩

/-- A unified source of two files, and one whose only local include is commented out. -/
def twoSources : List (String × String) :=
  [("UnifiedSource1.cpp", "#include \"x.cpp\"\n#include \"y.cpp\"\n"),
    ("UnifiedSource2.cpp", "#include <stdio.h>\n// #include \"z.cpp\"\n")]

def nestedSources : List (String × String) :=
  [("UnifiedSource1.cpp", "#include \"UnifiedSourceHelpers.cpp\"\n#include \"a.cpp\"\n"),
    ("UnifiedSourceHelpers.cpp", "#include \"b.cpp\"\n")]

/-- A regular file and both unified sources. -/
def sample : List Entry :=
  [entry "cc a.cpp" "a.cpp", entry "cc UnifiedSource1.cpp -o out.o" "UnifiedSource1.cpp",
    entry "cc UnifiedSource2.cpp" "UnifiedSource2.cpp"]

def passesThrough : SelfTest where
  name := "regular source is passed through"
  sources := []
  check view root :=
    expect view root [entry "cc a.cpp" "a.cpp"] [entry "cc a.cpp" (resolve root "a.cpp")]

def isExpanded : SelfTest where
  name := "unified source is expanded"
  sources := twoSources
  check view root :=
    let made (name : String) : Entry :=
      entry ("cc " ++ resolve root name ++ " -o out.o") (resolve root name)
    expect view root [entry "cc UnifiedSource1.cpp -o out.o" "UnifiedSource1.cpp"]
      [made "x.cpp", made "y.cpp"]

def commentIsExpanded : SelfTest where
  name := "commented-out include is expanded"
  sources := twoSources
  check view root :=
    expect view root [entry "cc UnifiedSource2.cpp" "UnifiedSource2.cpp"]
      [entry ("cc " ++ resolve root "z.cpp") (resolve root "z.cpp")]

def nestedIsExpanded : SelfTest where
  name := "nested unified source is expanded"
  sources := nestedSources
  check view root :=
    let made (name : String) : Entry := entry ("cc " ++ resolve root name) (resolve root name)
    expect view root [entry "cc UnifiedSource1.cpp" "UnifiedSource1.cpp"]
      [made "b.cpp", made "a.cpp"]

def noneSurvives : SelfTest where
  name := "no unified source survives"
  sources := twoSources
  check view root := do
    let found ← refined view root sample
    ensure (found.length == 4) ("expected 4 commands, got " ++ toString found.length)
    match found.find? (·.isUnified) with
    | some entry => Outcome.fail (.of (.unexpected ("'" ++ entry.file ++ "' survived refinement")))
    | none => pure ()
    match found.find? (!Path.isAbsolute ·.file) with
    | some entry => Outcome.fail (.of (.unexpected ("'" ++ entry.file ++ "' isn't absolute")))
    | none => pure ()

def isIdempotent : SelfTest where
  name := "refinement is idempotent"
  sources := twoSources
  check view root := do
    let once ← refined view root sample
    let twice ← refined view root once
    ensure (once == twice) "second pass changed the database"

def missingRootIsFatal : SelfTest where
  name := "missing indexing root is fatal"
  sources := []
  check view root :=
    expectFailure view (pathIn root "missing") sample
      "refinement succeeded without an indexing root"

def missingSourceIsFatal : SelfTest where
  name := "unreadable unified source is fatal"
  sources := []
  check view root :=
    expectFailure view root sample "refinement succeeded with missing unified sources"

def all : List SelfTest :=
  [passesThrough, isExpanded, commentIsExpanded, nestedIsExpanded, noneSurvives, isIdempotent,
    missingRootIsFatal, missingSourceIsFatal]

def verdict (test : SelfTest) (result : Except Failure Unit) : LogLine :=
  match result with
  | .ok _ => ⟨.info, .selfTest, "[PASS] " ++ test.name⟩
  | .error failure => ⟨.error, .selfTest, "[FAIL] " ++ test.name ++ ": " ++ failure.message⟩

/-- The result of all tests, of which so many failed. -/
def conclude (failed : Nat) : Outcome Unit :=
  if failed = 0 then
    .write .info .selfTest ("All " ++ toString all.length ++ " self-tests passed")
  else .fail (.of (.failedTests failed all.length))

/-- What comes of writing a source. A failure says no more than the reason. -/
def ofWrite (written : Except WriteFailure Unit) : Except Failure Unit :=
  written.mapError fun failure => .of (.io failure.reason)

def put (root : String) (fs : FileSystem) (source : String × String) : Except Failure FileSystem :=
  let (written, after) := fs.write (pathIn root source.1) (Utf8.encode source.2)
  (ofWrite written).map fun _ => after

/-- What a test comes to in a root that is there. It puts its sources there, one after the other,
and refines only after all of them were written. -/
def outcome (test : SelfTest) (fs : FileSystem) (root : String) : Outcome Unit := do
  let prepared ← Outcome.ofExcept (test.sources.foldlM (put root) fs)
  test.check prepared.view root

/-- Runs a test in a new root, and gives its lines and whether it passed. -/
def run (test : SelfTest) (fs : FileSystem) (root : String) : List LogLine × Bool :=
  let outcome := test.outcome (fs.makeDirectories root) root
  (outcome.log ++ [test.verdict outcome.result], outcome.result matches .ok _)

/-- Runs all tests, each in a new directory whose path the system chooses. The directories are
removed again, so the file system is left as it was. -/
def runAll (fs : FileSystem) (root : Nat → String) : Outcome Unit :=
  let runs := all.zipIdx.map fun test => test.1.run fs (root test.2)
  let concluded := conclude (runs.countP (!·.2))
  ⟨runs.flatMap (·.1) ++ concluded.log, concluded.result⟩

end SelfTest

end UnityBuild
