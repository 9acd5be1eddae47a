/-!
# Paths as text

A path is a text that slashes cut into pieces. The pieces `""` and `"."` name the place they are
read at, `".."` names the place above, and any other piece is a name to be entered.

This module joins paths, reads the base name and the extension off them, and compares them by
what they spell rather than by how many slashes they use. Nothing here looks at a file system.

Paths are strings of characters. An operating system takes other bytes in a name, too, and a path
with such bytes cannot be written down here. For the paths that can, turning a path into text and
text into a path changes nothing, and so neither is a step of its own.
-/

namespace UnityBuild.Path

/-- What stands before, between and after the slashes of a path. Pieces may be empty, and a path has
one more of them than it has slashes. -/
def pieces (path : String) : List String :=
  (path.toList.splitOn '/').map String.ofList

/-- The pieces that stay where they are read. -/
def isIdle (piece : String) : Bool :=
  piece == "" || piece == "."

/-- The pieces that name an entry of a directory. -/
def isName (piece : String) : Bool :=
  !isIdle piece && piece != ".."

/-- A path that begins with a slash is read from the root. -/
def isAbsolute (path : String) : Bool :=
  path.toList.head? == some '/'

/-- A path that ends with a slash asks for a directory. -/
def endsWithSlash (path : String) : Bool :=
  path.toList.getLast? == some '/'

/-- Reads a reference from a base. An absolute reference needs no base, and one slash at most is
put between the two. -/
def join (base reference : String) : String :=
  if isAbsolute reference || base.isEmpty then reference
  else if endsWithSlash base then base ++ reference
  else base ++ "/" ++ reference

/-- The last piece that is not idle, if it is a name. A path that ends in a step up has no base
name, even if a name stands further to the front. -/
def baseName? (path : String) : Option String :=
  ((pieces path).filter (!isIdle ·)).getLast?.filter isName

/-- The base name, or the empty text where there is none. -/
def baseName (path : String) : String :=
  (baseName? path).getD ""

/-- The part of a name behind its last dot. A name without a dot has none, and neither has a name
whose only dot comes first. -/
def extension? (name : String) : Option String :=
  let letters := name.toList.reverse
  match letters.dropWhile (· != '.') with
  | _ :: _ :: _ => some (String.ofList (letters.takeWhile (· != '.')).reverse)
  | _ => none

/-- What a path spells: whether it starts at the root, whether it is written from the current
place on, and its pieces other than the idle ones. -/
def spelling (path : String) : Bool × Bool × List String :=
  (isAbsolute path, (pieces path).head? == some ".", (pieces path).filter (!isIdle ·))

/-- Two paths are alike when they differ in repeated slashes and in inner dots only. -/
def alike (left right : String) : Bool :=
  spelling left == spelling right

theorem join_of_isAbsolute {base reference : String} (h : isAbsolute reference = true) :
    join base reference = reference := by
  simp [join, h]

@[simp] theorem join_empty_base (reference : String) : join "" reference = reference := by
  simp [join]

@[simp] theorem isName_parent : isName ".." = false := by decide

theorem isIdle_of_isName {piece : String} (h : isName piece = true) : isIdle piece = false := by
  simp_all [isName]

theorem ne_parent_of_isName {piece : String} (h : isName piece = true) : piece ≠ ".." := by
  simp_all [isName]

end UnityBuild.Path
