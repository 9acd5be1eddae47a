import UnityBuild.IoFailure
import UnityBuild.Path.Basic
import UnityBuild.Text.Utf8

/-!
# File systems

A file system is a finite table of nodes by location, where a location is the list of names that
lead from the root to a node. The root is always a directory.

It also holds the place where relative paths start. A directory that was removed while somebody
stands in it is an empty directory without a location. Its parent is still known, so a place keeps
the names that led there, together with the number of the last ones that were removed.
-/

namespace UnityBuild

/-- The names that lead from the root to a node. A location is not a path: it has no links, no steps
up and no idle pieces. -/
abbrev Location := List String

/-- Devices: one drops what is written to it and is empty when it is read, the other never has room
for what is written and has no end when it is read. -/
inductive Device where
  | null
  | full
  deriving DecidableEq, Repr

inductive Node where
  | directory
  | file (content : Bytes)
  | link (target : String)
  | device (kind : Device)
  deriving DecidableEq, Repr

def Node.text? : Node → Option Bytes
  | file content => some content
  | _ => none

/-- Where a walk stands. Of the names that led there, the last `removed` ones exist no more. -/
structure Place where
  names : Location
  removed : Nat
  deriving DecidableEq, Repr

namespace Place

def root : Place := ⟨[], 0⟩

/-- The place of an existing node. -/
def standing (names : Location) : Place := ⟨names, 0⟩

/-- The place above. The root is its own parent. -/
def parent (place : Place) : Place := ⟨place.names.dropLast, place.removed - 1⟩

@[simp] theorem parent_standing_append (names : Location) (name : String) :
    (standing (names ++ [name])).parent = standing names := by
  simp [standing, parent]

end Place

def Location.text (location : Location) : String :=
  "/" ++ "/".intercalate location

structure FileSystem where
  nodes : List (Location × Node)
  /-- Where relative paths start. -/
  here : Place
  deriving DecidableEq, Repr

namespace FileSystem

def node? (fs : FileSystem) (location : Location) : Option Node :=
  if location = [] then some .directory else fs.nodes.lookup location

/-- The node at a place. What is left of a removed directory is a directory. -/
def nodeAt? (fs : FileSystem) (place : Place) : Option Node :=
  if place.removed = 0 then fs.node? place.names else some .directory

def isDirectoryAt (fs : FileSystem) (place : Place) : Bool :=
  fs.nodeAt? place == some .directory

/-- Puts a node at a location, in the place of any other. Nothing is done about the directories
above, which have to be there already. -/
def insert (fs : FileSystem) (location : Location) (node : Node) : FileSystem :=
  { fs with nodes := (location, node) :: fs.nodes.filter (·.1 != location) }

/-- Removes a node and all that lies below it. Whoever stands there keeps standing there. -/
def erase (fs : FileSystem) (location : Location) : FileSystem :=
  let depth := fs.here.names.length
  let below := location.isPrefixOf fs.here.names && location.length + fs.here.removed ≤ depth
  { nodes := fs.nodes.filter (!location.isPrefixOf ·.1)
    here := if below then ⟨fs.here.names, depth - location.length + 1⟩ else fs.here }

/-- The absolute path of the place where relative paths start, unless it was removed. -/
def currentDirectory (fs : FileSystem) : Except IoFailure String :=
  if fs.here.removed = 0 then .ok (Location.text fs.here.names) else .error .notFound

@[simp] theorem node?_root (fs : FileSystem) : fs.node? [] = some .directory := by
  simp [node?]

@[simp] theorem nodeAt?_standing (fs : FileSystem) (location : Location) :
    fs.nodeAt? (.standing location) = fs.node? location := by
  simp [nodeAt?, Place.standing]

theorem node?_insert_self (fs : FileSystem) {location : Location} (h : location ≠ [])
    (node : Node) : (fs.insert location node).node? location = some node := by
  simp [node?, insert, h]

end FileSystem

end UnityBuild
