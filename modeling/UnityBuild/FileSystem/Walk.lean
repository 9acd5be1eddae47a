import UnityBuild.FileSystem.Basic

/-!
# Walking a path

A walk follows the pieces of a path one by one. Every piece is read in a directory: an idle piece
stays there, `".."` steps up, and a name steps to the entry of that name. A link sends the walk
through its target before the pieces that are left, and a walk passes at most forty links.

A walk that ends at a missing last name tells where, because a file can be created there. Slashes
behind the last name ask for a directory. So a walk that would create a file stops in front of such
a name, and never looks it up.
-/

namespace UnityBuild

/-- What a path is walked for. The two differ only where the last name is missing or has slashes
behind it. -/
inductive Purpose where
  /-- To use what is there. -/
  | visit
  /-- To use what is there, or to create a file. -/
  | create
  deriving DecidableEq, Repr

/-- How a walk ends. -/
inductive Arrival where
  /-- At an existing node that is no link. -/
  | found (place : Place)
  /-- In a directory that has no entry of the last name. -/
  | missing (directory : Place) (name : String)
  | failed (failure : IoFailure)
  deriving DecidableEq, Repr

/-- A part of a walk without links: it ends, or it meets a link and has to go on from there. -/
inductive Leg where
  | done (arrival : Arrival)
  | detour (directory : Place) (target : String) (rest : List String)
  deriving DecidableEq, Repr

/-- Names of more bytes than this are refused when they are looked up, also in a directory that has
no entry of the name. -/
def longestName : Nat := 255

/-- Paths of more bytes than this are refused before any of their names is looked up. Targets of
links are not measured. -/
def longestPath : Nat := 4095

/-- The number of links that a walk may pass, whether they lead in a circle or not. One link more
ends the walk with a failure. -/
def mostLinks : Nat := 40

namespace FileSystem

def entry? (fs : FileSystem) (directory : Place) (name : String) : Except IoFailure (Option Node) :=
  if directory.removed ≠ 0 then .error .notFound
  else if longestName < name.utf8ByteSize then .error .nameTooLong
  else .ok (fs.node? (directory.names ++ [name]))

/-- Follows pieces up to the first link. Each piece is read in the directory that the pieces in
front of it lead to, and a walk that stands at a file cannot go on, not even by an idle piece. -/
def advance (fs : FileSystem) (purpose : Purpose) (place : Place) : List String → Leg
  | [] => .done (.found place)
  | piece :: rest =>
    if !fs.isDirectoryAt place then .done (.failed .notADirectory)
    else if Path.isIdle piece then fs.advance purpose place rest
    else if piece = ".." then fs.advance purpose place.parent rest
    else
      let last := rest.all (· == "")
      if purpose = .create && last && !rest.isEmpty then .done (.failed .isADirectory)
      else match fs.entry? place piece with
        | .error failure => .done (.failed failure)
        | .ok none => .done (if last then .missing place piece else .failed .notFound)
        | .ok (some (.link target)) => .detour place target rest
        | .ok (some _) => fs.advance purpose (.standing (place.names ++ [piece])) rest

/-- Where a path starts, read at a place. -/
def origin (place : Place) (path : String) : Place :=
  if Path.isAbsolute path then .root else place

/-- Follows pieces, and at most `links` links. A link puts the pieces of its target in front of
those that are left, and an absolute target starts again at the root. -/
def walk (fs : FileSystem) (purpose : Purpose) : (links : Nat) → Place → List String → Arrival
  | 0, place, pieces =>
    match fs.advance purpose place pieces with
    | .done arrival => arrival
    | .detour .. => .failed .linkLoop
  | links + 1, place, pieces =>
    match fs.advance purpose place pieces with
    | .done arrival => arrival
    | .detour directory target rest =>
      fs.walk purpose links (origin directory target) (Path.pieces target ++ rest)

/-- Walks a path from the place where relative paths start. The empty path leads nowhere. -/
def locate (fs : FileSystem) (purpose : Purpose) (path : String) : Arrival :=
  if path.toList.contains '\x00' then .failed .nulInPath
  else if path.isEmpty then .failed .notFound
  else if longestPath < path.utf8ByteSize then .failed .nameTooLong
  else fs.walk purpose mostLinks (origin fs.here path) (Path.pieces path)

/-- The place of an existing node, with all links followed, or the reason why the path leads to
none. -/
def place? (fs : FileSystem) (path : String) : Except IoFailure Place :=
  match fs.locate .visit path with
  | .found place => .ok place
  | .missing .. => .error .notFound
  | .failed failure => .error failure

end FileSystem

end UnityBuild
