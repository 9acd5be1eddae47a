import UnityBuild.Log.Clock
import UnityBuild.Program
import UnityBuild.Snapshot
import Std.Time.DateTime.Timestamp

/-!
# The program on this machine

Everything is decided elsewhere. This module asks the operating system for what a run needs to know,
hands the answers over, and does what comes out of it.
-/

namespace UnityBuild.Machine

def failureOf (error : IO.Error) : IoFailure :=
  let byCode (code : UInt32) (details : String) : IoFailure :=
    match code.toNat with
    | 2 => .notFound
    | 20 => .notADirectory
    | 21 => .isADirectory
    | 28 => .noSpace
    | 36 => .nameTooLong
    | 40 => .linkLoop
    | number => .other (details ++ " (os error " ++ toString number ++ ")")
  match error with
  | .noFileOrDirectory _ code details => byCode code details
  | .invalidArgument _ code details => byCode code details
  | .permissionDenied _ code details => byCode code details
  | .resourceExhausted _ code details => byCode code details
  | .inappropriateType _ code details => byCode code details
  | .noSuchThing _ code details => byCode code details
  | .alreadyExists _ code details => byCode code details
  | .interrupted _ code details => byCode code details
  | .resourceBusy code details => byCode code details
  | .resourceVanished code details => byCode code details
  | .hardwareFault code details => byCode code details
  | .unsupportedOperation code details => byCode code details
  | .unsatisfiedConstraints code details => byCode code details
  | .illegalOperation code details => byCode code details
  | .protocolError code details => byCode code details
  | .timeExpired code details => byCode code details
  | .otherError code details => byCode code details
  | other => .other (toString other)

/-- Tries an action, and gives the reason if it fails. -/
def attempt {α : Type} (action : IO α) : IO (Except IoFailure α) := do
  try
    return .ok (← action)
  catch error =>
    return .error (failureOf error)

/-- Opens a file. The operating system never sees a path with a NUL in it. -/
def openFile (path : String) (mode : IO.FS.Mode) : IO (Except IoFailure IO.FS.Handle) :=
  if path.toList.contains '\x00' then return .error .nulInPath
  else attempt (IO.FS.Handle.mk path mode)

def readFile (path : String) : IO (Except ReadFailure Bytes) := do
  match ← openFile path .read with
  | .error failure => return .error (.opening failure)
  | .ok handle =>
    match ← attempt handle.readBinToEnd with
    | .error failure => return .error (.reading failure)
    | .ok bytes => return .ok bytes.toList

def writeFile (path : String) (bytes : Bytes) : IO (Except WriteFailure Unit) := do
  match ← openFile path .write with
  | .error failure => return .error (.creating failure)
  | .ok handle =>
    match ← attempt (do handle.write ⟨bytes.toArray⟩; handle.flush) with
    | .error failure => return .error (.writing failure)
    | .ok () => return .ok ()

def isDirectory (path : String) : IO Bool := do
  if path.isEmpty || path.toList.contains '\x00' then return false
  match ← attempt (do (← IO.FS.realPath path).isDir) with
  | .ok answer => return answer
  | .error _ => return false

/-- Reads paths, and all further ones that the texts read ask for. -/
partial def follow (base : String) (paths : List String)
    (reads : List (String × Except ReadFailure Bytes)) :
    IO (List (String × Except ReadFailure Bytes)) := do
  match paths with
  | [] => return reads
  | path :: rest =>
    if (reads.lookup path).isSome then follow base rest reads
    else
      let result ← readFile path
      let further := match result with
        | .ok bytes => Snapshot.furtherReads base bytes
        | .error _ => []
      follow base (further ++ rest) ((path, result) :: reads)

/-- The part of the file system that refining entries below a root depends on. -/
def snapshot (root : String) (others : List String) (entries : List Entry) : IO Snapshot := do
  let here ← attempt (do return (← IO.currentDir).toString)
  let directories ← (root :: others).filterM isDirectory
  let reads ← match absolutePath here root with
    | .ok base =>
      if directories.contains root then follow base (Snapshot.firstReads base entries) []
      else pure []
    | .error _ => pure []
  return ⟨reads, directories, here⟩

def now : IO String := do
  return Clock.written (← Std.Time.Timestamp.now).toSecondsSinceUnixEpoch.val.toNat

/-- Prints what an outcome leaves on the two streams, and gives its code. -/
def finish (ending : Program.Ending) : IO UInt32 := do
  (← IO.getStdout).putStr ending.output
  (← IO.getStderr).putStr ending.errors
  return ending.code.toUInt32

def printLog (filter : Filter) (log : List LogLine) : IO Unit := do
  (← IO.getStderr).putStr (Program.written filter (← now) log)

def refine (filter : Filter) (config : Config) : IO (Outcome Unit) := do
  let input ← readFile config.input
  let entries := (Database.ofRead config.input input).toOption.getD []
  let planned := Run.plan config input (← snapshot config.root [] entries).view
  printLog filter planned.log
  match planned.result with
  | .error failure => return ⟨[], .error failure⟩
  | .ok entries =>
    let written ← writeFile config.output (Database.render entries)
    return Run.conclude config (Database.ofWrite config.output entries written)

/-- Puts sources into a root, up to the first one that cannot be written. -/
def putSources (root : String) : List (String × String) → IO (Except Failure Unit)
  | [] => return .ok ()
  | (name, text) :: rest => do
    match SelfTest.ofWrite (← writeFile (SelfTest.pathIn root name) (Utf8.encode text)) with
    | .ok () => putSources root rest
    | .error failure => return .error failure

/-- Runs one self-test in a root of its own, and tells whether it passed. -/
def runTest (filter : Filter) (test : SelfTest) (root : String) : IO Bool := do
  let written ← putSources root test.sources
  let known ← snapshot root [SelfTest.pathIn root "missing"] SelfTest.sample
  let outcome : Outcome Unit := do
    Outcome.ofExcept written
    test.check known.view root
  printLog filter (outcome.log ++ [test.verdict outcome.result])
  return outcome.result matches .ok _

/-- Runs the self-tests, each in a new directory, as long as the system makes one. -/
def selfTest (filter : Filter) : IO (Outcome Unit) := do
  let mut failed := 0
  for test in SelfTest.all do
    match ← attempt IO.FS.createTempDir with
    | .error failure => return .fail (.of (.io failure))
    | .ok directory =>
      unless ← runTest filter test directory.toString do
        failed := failed + 1
      IO.FS.removeDirAll directory
  return SelfTest.conclude failed

end UnityBuild.Machine

open UnityBuild in
def main (arguments : List String) : IO UInt32 := do
  let (filter, warnings) := Filter.ofVariable (← IO.getEnv "RUST_LOG")
  (← IO.getStderr).putStr (String.join warnings)
  match Program.task arguments with
  | .stop ending => Machine.finish ending
  | .selfTest =>
    Machine.finish (Program.ending filter (← Machine.now) (← Machine.selfTest filter))
  | .refine config =>
    Machine.finish (Program.ending filter (← Machine.now) (← Machine.refine filter config))
