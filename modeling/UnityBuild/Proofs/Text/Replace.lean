import Mathlib.Data.List.Infix
import UnityBuild.Text.Replace

/-!
# Replacing a word

Letters at which no occurrence begins are kept, and an occurrence is replaced as a whole. In tokens
that are joined by blanks, a word without a blank occurs inside of tokens only. So if no token holds
the word without being it, replacing the word replaces the tokens that are equal to it.
-/

namespace UnityBuild.Text

section Occurrences

variable {α : Type} [BEq α] {wanted : List α}

theorem replaceFrom_skip (wanted substitute front rest : List α) :
    replaceFrom wanted substitute front.length (front ++ rest) =
      replaceFrom wanted substitute 0 rest := by
  induction front with
  | nil => rfl
  | cons letter front ih => exact ih

variable [LawfulBEq α]

/-- An occurrence is replaced, and the search goes on behind it. -/
theorem replaceFrom_append_left (nonempty : wanted ≠ []) (substitute rest : List α) :
    replaceFrom wanted substitute 0 (wanted ++ rest) =
      substitute ++ replaceFrom wanted substitute 0 rest := by
  obtain ⟨letter, letters, rfl⟩ := List.exists_cons_of_ne_nil nonempty
  have found : (letter :: letters).isPrefixOf (letter :: (letters ++ rest)) = true := by
    rw [List.isPrefixOf_iff_prefix]
    exact List.prefix_append _ _
  rw [List.cons_append, replaceFrom, if_pos found]
  exact congrArg (substitute ++ ·) (replaceFrom_skip _ substitute letters rest)

theorem replaceFrom_cons_of_absent {letter : α} {rest : List α}
    (absent : ¬ wanted <+: letter :: rest) (substitute : List α) :
    replaceFrom wanted substitute 0 (letter :: rest) =
      letter :: replaceFrom wanted substitute 0 rest := by
  rw [replaceFrom, if_neg]
  rwa [List.isPrefixOf_iff_prefix]

theorem replaceFrom_append_of_absent {text rest : List α}
    (absent : ∀ back, back <:+ text → back ≠ [] → ¬ wanted <+: back ++ rest)
    (substitute : List α) :
    replaceFrom wanted substitute 0 (text ++ rest) =
      text ++ replaceFrom wanted substitute 0 rest := by
  induction text with
  | nil => rfl
  | cons letter text ih =>
    have here := absent _ (List.suffix_refl _) (List.cons_ne_nil letter text)
    have onward := ih fun back suffix => absent back (suffix.trans (List.suffix_cons letter text))
    rw [List.cons_append] at here ⊢
    rw [replaceFrom_cons_of_absent here, onward, List.cons_append]

/-- No occurrence begins in letters without the first one of what is wanted. -/
theorem replaceFrom_append_of_not_mem {letter : α} {text : List α}
    (head : wanted.head? = some letter) (absent : letter ∉ text) (substitute rest : List α) :
    replaceFrom wanted substitute 0 (text ++ rest) =
      text ++ replaceFrom wanted substitute 0 rest := by
  obtain ⟨letters, rfl⟩ := List.head?_eq_some_iff.mp head
  refine replaceFrom_append_of_absent (fun back suffix nonempty found => ?_) substitute
  obtain ⟨first, others, rfl⟩ := List.exists_cons_of_ne_nil nonempty
  obtain rfl : letter = first := (List.cons_prefix_cons.mp found).1
  exact absent (suffix.subset (.head _))

end Occurrences

section Tokens

variable {α : Type} {wanted : List α} {blank : α}

theorem prefix_of_prefix_append_cons {back rest : List α} (solid : blank ∉ wanted)
    (h : wanted <+: back ++ blank :: rest) : wanted <+: back := by
  by_contra longer
  have covers : back <+: wanted := by
    refine List.prefix_of_prefix_length_le (List.prefix_append back _) h ?_
    by_contra shorter
    exact longer (List.prefix_of_prefix_length_le h (List.prefix_append back _) (by omega))
  obtain ⟨beyond, rfl⟩ := covers
  cases beyond with
  | nil => exact longer (by simp)
  | cons letter beyond =>
    obtain rfl : letter = blank :=
      (List.cons_prefix_cons.mp ((List.prefix_append_right_inj _).mp h)).1
    simp at solid

variable [DecidableEq α]

theorem replaceFrom_blank (nonempty : wanted ≠ []) (solid : blank ∉ wanted)
    (substitute rest : List α) :
    replaceFrom wanted substitute 0 (blank :: rest) =
      blank :: replaceFrom wanted substitute 0 rest := by
  refine replaceFrom_cons_of_absent (fun found => ?_) substitute
  have empty : wanted <+: [] := prefix_of_prefix_append_cons solid found
  exact nonempty (List.prefix_nil.mp empty)

/-- The last token is replaced if it is the word, and kept if it does not hold the word. -/
theorem replaceFrom_token {token : List α} (nonempty : wanted ≠ [])
    (whole : wanted <:+: token → token = wanted) (substitute : List α) :
    replaceFrom wanted substitute 0 token = if token = wanted then substitute else token := by
  split
  · rename_i same
    have replaced := replaceFrom_append_left nonempty substitute []
    simpa [same, replaceFrom] using replaced
  · rename_i other
    have absent : ∀ back, back <:+ token → back ≠ [] → ¬ wanted <+: back ++ [] := by
      intro back suffix _ found
      rw [List.append_nil] at found
      exact other (whole (found.isInfix.trans suffix.isInfix))
    simpa [replaceFrom] using replaceFrom_append_of_absent absent substitute

/-- The same holds of a token with a blank behind it, and the search goes on behind the blank. -/
theorem replaceFrom_token_append {token : List α} (nonempty : wanted ≠ [])
    (solid : blank ∉ wanted) (whole : wanted <:+: token → token = wanted)
    (substitute rest : List α) :
    replaceFrom wanted substitute 0 (token ++ blank :: rest) =
      (if token = wanted then substitute else token) ++
        blank :: replaceFrom wanted substitute 0 rest := by
  split
  · rename_i same
    rw [same, replaceFrom_append_left nonempty, replaceFrom_blank nonempty solid]
  · rename_i other
    rw [replaceFrom_append_of_absent, replaceFrom_blank nonempty solid]
    intro back suffix _ found
    have inside := prefix_of_prefix_append_cons solid found
    exact other (whole (inside.isInfix.trans suffix.isInfix))

theorem replaceFrom_intercalate (nonempty : wanted ≠ []) (solid : blank ∉ wanted)
    {tokens : List (List α)} (whole : ∀ token ∈ tokens, wanted <:+: token → token = wanted)
    (substitute : List α) :
    replaceFrom wanted substitute 0 ([blank].intercalate tokens) =
      [blank].intercalate
        (tokens.map fun token => if token = wanted then substitute else token) := by
  induction tokens with
  | nil => rfl
  | cons token others ih =>
    have first := whole token (by simp)
    have onward := ih fun other member => whole other (by simp [member])
    cases others with
    | nil => simpa using replaceFrom_token nonempty first substitute
    | cons second others =>
      simp only [List.intercalate_cons_cons, List.append_assoc, List.singleton_append,
        List.map_cons] at onward ⊢
      rw [replaceFrom_token_append nonempty solid first, onward]

end Tokens

/-- A text whose first letter is neither in front of it nor behind it is found where it is. -/
theorem replace_append_append {front wanted back : String} {letter : Char}
    (head : wanted.toList.head? = some letter) (before : letter ∉ front.toList)
    (behind : letter ∉ back.toList) (substitute : String) :
    replace (front ++ wanted ++ back) wanted substitute = front ++ substitute ++ back := by
  have filled : wanted.toList ≠ [] := List.ne_nil_of_mem (List.mem_of_head? head)
  have nonempty : ¬ wanted.isEmpty = true := by simpa using filled
  have tail := replaceFrom_append_of_not_mem head behind substitute.toList []
  rw [List.append_nil] at tail
  refine String.toList_inj.mp ?_
  rw [replace, if_neg nonempty, String.toList_ofList, String.toList_append, String.toList_append,
    List.append_assoc, replaceFrom_append_of_not_mem head before,
    replaceFrom_append_left filled, tail]
  simp [replaceFrom]

/-- Replacing a word in tokens that are joined by blanks replaces the tokens that are equal to it,
if no other token holds it. -/
theorem replace_intercalate {wanted : String} (nonempty : wanted ≠ "")
    (solid : ' ' ∉ wanted.toList) {tokens : List String}
    (whole : ∀ token ∈ tokens, wanted.toList <:+: token.toList → token = wanted)
    (substitute : String) :
    replace (" ".intercalate tokens) wanted substitute =
      " ".intercalate (tokens.map fun token => if token = wanted then substitute else token) := by
  have letters : wanted.toList ≠ [] := by simpa using nonempty
  have whole' : ∀ token ∈ tokens.map String.toList, wanted.toList <:+: token →
      token = wanted.toList := by
    intro token member inside
    obtain ⟨text, among, rfl⟩ := List.mem_map.mp member
    rw [whole text among inside]
  have replaced := replaceFrom_intercalate letters solid whole' substitute.toList
  refine String.toList_inj.mp ?_
  have empty : ¬ wanted.isEmpty = true := by simpa using nonempty
  rw [replace, if_neg empty, String.toList_ofList, String.toList_intercalate,
    String.toList_intercalate]
  refine replaced.trans (congrArg _ ?_)
  simp only [List.map_map]
  refine List.map_congr_left fun token _ => ?_
  simp only [Function.comp_apply, String.toList_inj]
  split <;> rfl

end UnityBuild.Text
