import UnityBuild.Config
import UnityBuild.Database.File
import UnityBuild.Refinement

/-!
# Runs

A run has two halves. The first half reads the database and all sources, and plans what to write;
the second half writes it. Nothing is written when the first half fails, and nothing is read in the
second.

The plan is made from what was read at the input path and from a view, so the same plan serves a
file system given as a value and the one of the machine.
-/

namespace UnityBuild

namespace Run

def beginNote (config : Config) : String :=
  "Refining '" ++ config.input ++ "' (indexing root: '" ++ config.root ++ "')"

def expandedNote (summary : Summary) : String :=
  "Expanded " ++ toString summary.unified ++ " unified source(s) into "
    ++ toString summary.synthesized ++ " compile command(s)"

def countNote (summary : Summary) : String :=
  toString summary.input ++ " compile command(s) in, " ++ toString summary.output ++ " out"

def writtenNote (config : Config) : String :=
  "Refined database written to '" ++ config.output ++ "'"

def plan (config : Config) (input : Except ReadFailure Bytes) (view : View) :
    Outcome (List Entry) := do
  Outcome.write .info .program (beginNote config)
  let entries ← Outcome.ofExcept (Database.ofRead config.input input)
  let refined ← view.refine config.root entries
  Outcome.write .info .program (expandedNote refined.summary)
  Outcome.write .info .program (countNote refined.summary)
  return refined.entries

/-- What is told when the entries were written: one line more, or the failure of the step that
created or filled the file. -/
def conclude (config : Config) (written : Except Failure Unit) : Outcome Unit := do
  Outcome.ofExcept written
  Outcome.write .info .program (writtenNote config)

end Run

/-- Refines the database of a configuration, and gives the outcome together with the file system
afterwards. Up to the step that writes the entries, the file system is the given one. -/
def FileSystem.run (fs : FileSystem) (config : Config) : Outcome Unit × FileSystem :=
  let planned := Run.plan config (fs.read config.input) fs.view
  match planned.result with
  | .error failure => (⟨planned.log, .error failure⟩, fs)
  | .ok entries =>
    let (written, after) := fs.writeDatabase config.output entries
    let concluded := Run.conclude config written
    (⟨planned.log ++ concluded.log, concluded.result⟩, after)

end UnityBuild
