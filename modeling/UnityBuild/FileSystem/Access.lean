import UnityBuild.FileSystem.Walk

/-!
# Reading and writing files

Reading opens a file first. A directory can be opened and fails when it is read. So does the device
that is always full: it delivers zeros without end, for which there is never memory enough. Writing
creates a file or empties it, and then fills it. All paths are walked through links.

Nothing but the paths and the nodes decides whether this works: there are no permissions, and only
the full device ever runs out of room.
-/

namespace UnityBuild.FileSystem

def isDirectory (fs : FileSystem) (path : String) : Bool :=
  match fs.place? path with
  | .ok place => fs.isDirectoryAt place
  | .error _ => false

/-- What an opened node holds, if it comes to an end. A directory can be opened, but not read, and
the full device fills the memory before it ends. -/
def content (node : Option Node) : Except ReadFailure Bytes :=
  match node with
  | some (.file bytes) => .ok bytes
  | some (.device .null) => .ok []
  | some (.device .full) => .error (.reading (.other "out of memory"))
  | _ => .error (.reading .isADirectory)

def read (fs : FileSystem) (path : String) : Except ReadFailure Bytes :=
  match fs.place? path with
  | .error failure => .error (.opening failure)
  | .ok place => content (fs.nodeAt? place)

/-- The content of a regular file, if the path leads to one. -/
def regular? (fs : FileSystem) (path : String) : Option Bytes :=
  match fs.place? path with
  | .error _ => none
  | .ok place =>
    match fs.nodeAt? place with
    | some (.file bytes) => some bytes
    | _ => none

/-- What is opened to be written: the location of a file, which may be new, or a device. -/
inductive Target where
  | file (location : Location)
  | device (kind : Device)
  deriving DecidableEq, Repr

/-- Opens a path to be written. A new file needs an existing directory and a name without a slash
behind it. -/
def create (fs : FileSystem) (path : String) : Except IoFailure Target :=
  match fs.locate .create path with
  | .failed failure => .error failure
  | .missing directory name => .ok (.file (directory.names ++ [name]))
  | .found place =>
    match fs.nodeAt? place with
    | some (.device kind) => .ok (.device kind)
    | some (.file _) => .ok (.file place.names)
    | _ => .error .isADirectory

def write (fs : FileSystem) (path : String) (bytes : Bytes) :
    Except WriteFailure Unit × FileSystem :=
  match fs.create path with
  | .error failure => (.error (.creating failure), fs)
  | .ok (.file location) => (.ok (), fs.insert location (.file bytes))
  | .ok (.device .null) => (.ok (), fs)
  | .ok (.device .full) => (.error (.writing .noSpace), fs)

def makeDirectories (fs : FileSystem) (path : String) : FileSystem :=
  let pieces := Path.pieces path
  (List.range (pieces.length + 1)).foldl (fun fs count =>
    match fs.walk .visit mostLinks (origin fs.here path) (pieces.take count) with
    | .missing directory name => fs.insert (directory.names ++ [name]) .directory
    | _ => fs) fs

/-- The path of the directory that holds the last name of a path. -/
def parentPath (path : String) : String :=
  let above := (Path.pieces path).dropLast
  if above.isEmpty then "." else "/".intercalate above ++ "/"

/-- Makes a link at the last name of a path. The target is not looked at. -/
def makeLink (fs : FileSystem) (path target : String) : FileSystem :=
  match fs.place? (parentPath path), (Path.pieces path).getLast? with
  | .ok directory, some name => fs.insert (directory.names ++ [name]) (.link target)
  | _, _ => fs

/-- Removes what the last name of a path stands for: a link itself, a directory with all it holds.
-/
def remove (fs : FileSystem) (path : String) : FileSystem :=
  match fs.place? (parentPath path), (Path.pieces path).getLast? with
  | .ok directory, some name => fs.erase (directory.names ++ [name])
  | _, _ => fs

def changeDirectory (fs : FileSystem) (path : String) : FileSystem :=
  match fs.place? path with
  | .ok place => if fs.isDirectoryAt place then { fs with here := place } else fs
  | .error _ => fs

/-- All texts that can be read from a file system. The empty text is among them in any case, since a
device may deliver it. -/
def texts (fs : FileSystem) : List Bytes :=
  [] :: fs.nodes.filterMap (·.2.text?)

theorem mem_of_lookup {nodes : List (Location × Node)} {location : Location} {node : Node}
    (h : nodes.lookup location = some node) : (location, node) ∈ nodes := by
  induction nodes with
  | nil => simp at h
  | cons entry rest ih =>
    rw [List.lookup_cons] at h
    split at h
    · cases entry
      simp_all
    · exact List.mem_cons_of_mem _ (ih h)

/-- Whatever is read is one of the texts of the file system. -/
theorem mem_texts_of_read {fs : FileSystem} {path : String} {bytes : Bytes}
    (h : fs.read path = .ok bytes) : bytes ∈ fs.texts := by
  unfold read at h
  split at h
  · cases h
  · rename_i place _
    unfold content at h
    split at h
    · rename_i found hnode
      cases h
      unfold nodeAt? node? at hnode
      split at hnode
      · split at hnode
        · cases hnode
        · exact List.mem_cons_of_mem _
            (List.mem_filterMap.2 ⟨_, mem_of_lookup hnode, rfl⟩)
      · cases hnode
    · cases h
      simp [texts]
    · cases h
    · cases h

end UnityBuild.FileSystem
