import UnityBuild.Path.Basic

/-!
# Normal paths

A normal path is a starting point followed by names. It is reached by entering the pieces of a
path one after the other: an idle piece changes nothing, a name is added, and `".."` takes the last
name away. Where no name is left, `".."` stays at the root, and a relative path climbs one level
above the place it starts from.

`resolve` reads a reference from a base and answers with the text of the normal path. Links are not
followed and nothing has to exist. Base, reference and answer are strings of characters, so nothing
is lost between a path and its text. A base with bytes that are no text is left out.
-/

namespace UnityBuild

/-- Where a normal path starts: at the root, or some levels above the place it is read from. -/
inductive Anchor where
  | root
  | above (levels : Nat)
  deriving DecidableEq, Repr

structure NormalPath where
  anchor : Anchor
  names : List String
  deriving DecidableEq, Repr

namespace NormalPath

/-- Takes the last name away. Without one, the root is its own parent, and a relative path climbs.
-/
def leave : NormalPath → NormalPath
  | ⟨anchor, name :: names⟩ => ⟨anchor, (name :: names).dropLast⟩
  | ⟨.root, []⟩ => ⟨.root, []⟩
  | ⟨.above levels, []⟩ => ⟨.above (levels + 1), []⟩

/-- Follows one piece of a path from a normal path. It is the only step there is: joining, resolving
and making a path absolute are made of it. -/
def enter (path : NormalPath) (piece : String) : NormalPath :=
  if Path.isIdle piece then path
  else if piece = ".." then path.leave
  else ⟨path.anchor, path.names ++ [piece]⟩

/-- The normal path that starts where the given path starts, before any piece is followed. -/
def start (path : String) : NormalPath :=
  ⟨if Path.isAbsolute path then .root else .above 0, []⟩

def ofText (path : String) : NormalPath :=
  (Path.pieces path).foldl enter (start path)

/-- The written form: no idle piece, and `".."` at the front of a relative path only. -/
def text : NormalPath → String
  | ⟨.root, names⟩ => "/" ++ "/".intercalate names
  | ⟨.above levels, names⟩ => "/".intercalate (List.replicate levels ".." ++ names)

@[simp] theorem leave_append (anchor : Anchor) (names : List String) (name : String) :
    leave ⟨anchor, names ++ [name]⟩ = ⟨anchor, names⟩ := by
  cases names with
  | nil => simp [leave]
  | cons first rest => rw [List.cons_append, leave, ← List.cons_append, List.dropLast_concat]

@[simp] theorem enter_name {piece : String} (h : Path.isName piece = true) (path : NormalPath) :
    path.enter piece = ⟨path.anchor, path.names ++ [piece]⟩ := by
  simp [enter, Path.isIdle_of_isName h, Path.ne_parent_of_isName h]

theorem enter_idle {piece : String} (h : Path.isIdle piece = true) (path : NormalPath) :
    path.enter piece = path := by
  simp [enter, h]

@[simp] theorem enter_parent (path : NormalPath) : path.enter ".." = path.leave := by
  simp [enter, Path.isIdle]

end NormalPath

/-- Reads a reference from a base, without looking at the file system, and answers with the text of
a normal path. A name that is a link loses its meaning where a step up follows it. -/
def resolve (base reference : String) : String :=
  (NormalPath.ofText (Path.join base reference)).text

theorem resolve_eq (base reference : String) :
    resolve base reference = (NormalPath.ofText (Path.join base reference)).text := rfl

theorem resolve_of_isAbsolute {reference : String} (h : Path.isAbsolute reference = true)
    (base : String) : resolve base reference = (NormalPath.ofText reference).text := by
  rw [resolve_eq, Path.join_of_isAbsolute h]

attribute [irreducible] resolve

end UnityBuild
