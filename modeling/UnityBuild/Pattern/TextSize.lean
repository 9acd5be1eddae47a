import UnityBuild.Pattern.Expression
import UnityBuild.Pattern.Space
import UnityBuild.Text.Utf8

/-!
# Sizes of choices between texts

Texts that begin alike share their beginning, as far as none of them ends in between: a text that is
behind one that ends there must not be tried before it. So the texts from a node on fall into
groups, which are parted by the texts that end at the node, and share within a group only.
-/

namespace UnityBuild.Pattern

abbrev Branches := List Bytes

namespace Branches

/-- The groups of texts between those that are empty. Before the first byte one empty text says as
much as several. -/
def groups (texts : Branches) : List Branches :=
  let rest := texts.dropWhile List.isEmpty
  (if rest.length < texts.length then [] :: rest else texts).splitOn []

/-- The ways out of a group: the texts behind each byte. -/
def ways (group : Branches) : List Branches :=
  let sorted := group.mergeSort fun text other =>
    (text.headD 0).toNat ≤ (other.headD 0).toNat
  (sorted.splitBy fun text other => text.head? == other.head?).map (·.map List.tail)

/-- The room for a node without those behind it. A group is a node, and a way out of this node. -/
def node (groups : List (List Branches)) : Room :=
  let used := groups.filter (!·.isEmpty)
  let several := (used.filter (1 < ·.length)).map (8 * ·.length)
  .take (1 + used.length) (several.foldr (· + ·) 0 + 4 * (used.length + (groups.length - 1)))

/-- The room for the given nodes and all behind them. The number bounds how many there are. -/
def nodes : Nat → List Branches → Room
  | 0, _, space => some space
  | _, [], space => some space
  | count + 1, texts :: more, space =>
    let groups := (groups texts).map ways
    match node groups space with
    | none => none
    | some space =>
      nodes count (groups.flatten.filter (·.any (!·.isEmpty)) ++ more) space

end Branches

/-- The room for a choice between texts, which all end at one node. -/
def Room.ofTexts (direction : Direction) (texts : List (List Char)) : Room :=
  let bytes := texts.map fun letters =>
    let bytes := letters.flatMap String.utf8EncodeChar
    match direction with
    | .forward => bytes
    | .backward => bytes.reverse
  all [take 1 0, Branches.nodes ((bytes.map List.length).foldr (· + ·) 0 + 1) [bytes]]

end UnityBuild.Pattern
