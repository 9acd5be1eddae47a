import UnityBuild.Database.Reader
import UnityBuild.Database.Writer
import UnityBuild.Failure
import UnityBuild.FileSystem.Access

/-!
# Database files

Failures to open or to create a database file are told with its path, and so are faults in its text.
When an opened file cannot be read, or a created one takes no text, the reason stands alone.

Text goes out through a buffer. A text that overflows the buffer meets a full device while it is
produced, a shorter one when the buffer is flushed at the end.
-/

namespace UnityBuild.Database

/-- The number of bytes that wait before they are written. -/
def bufferSize : Nat := 8192

def ofRead (path : String) : Except ReadFailure Bytes → Except Failure (List Entry)
  | .error (.opening failure) => .error ⟨[.openDatabase path], .io failure⟩
  | .error (.reading failure) => .error (.of (.io failure))
  | .ok bytes =>
    match parse bytes with
    | .ok entries => .ok entries
    | .error complaint => .error ⟨[.parseDatabase path], .malformed complaint⟩

/-- What writing entries to a path came to. -/
def ofWrite (path : String) (entries : List Entry) :
    Except WriteFailure Unit → Except Failure Unit
  | .error (.creating failure) => .error ⟨[.createDatabase path], .io failure⟩
  | .error (.writing failure) =>
    .error (.of (if bufferSize < (body entries).length then .unwritten failure else .io failure))
  | .ok () => .ok ()

end UnityBuild.Database

namespace UnityBuild.FileSystem

def readDatabase (fs : FileSystem) (path : String) : Except Failure (List Entry) :=
  Database.ofRead path (fs.read path)

def writeDatabase (fs : FileSystem) (path : String) (entries : List Entry) :
    Except Failure Unit × FileSystem :=
  let (written, after) := fs.write path (Database.render entries)
  (Database.ofWrite path entries written, after)

end UnityBuild.FileSystem
