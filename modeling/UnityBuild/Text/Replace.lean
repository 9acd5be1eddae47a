/-!
# Replacing a text

Every occurrence of one text in another is replaced, from left to right. Occurrences do not overlap,
and what was put in is not searched again. The empty text occurs nowhere.
-/

namespace UnityBuild.Text

variable {α : Type} [BEq α]

/-- Replaces the occurrences in a text whose first `skip` letters belong to an earlier one. -/
def replaceFrom (wanted substitute : List α) : (skip : Nat) → List α → List α
  | _, [] => []
  | skip + 1, _ :: rest => replaceFrom wanted substitute skip rest
  | 0, letter :: rest =>
    if wanted.isPrefixOf (letter :: rest) then
      substitute ++ replaceFrom wanted substitute (wanted.length - 1) rest
    else letter :: replaceFrom wanted substitute 0 rest

/-- Replaces every occurrence of `wanted` by `substitute`, wherever in a word it stands. A text in
which nothing is wanted stays as it is. -/
def replace (text wanted substitute : String) : String :=
  if wanted.isEmpty then text
  else String.ofList (replaceFrom wanted.toList substitute.toList 0 text.toList)

@[simp] theorem replace_empty (text substitute : String) : replace text "" substitute = text := by
  simp [replace]

end UnityBuild.Text
