import UnityBuild.Proofs.Text.Replace

/-!
# The parts between occurrences

A text is cut at a word from left to right. Each part reaches up to the first occurrence of the word
behind its own start, and the next part begins behind that occurrence. The last part does not hold
the word. Occurrences that overlap an earlier one are not cut at, so there is one way only to cut a
text.

Replacing the word joins the same parts by the substitute. They are parts of the given text, so
nothing that was put in is searched, whether it holds the word or not.
-/

namespace UnityBuild.Text

variable {α : Type} {wanted part other rest text : List α} {parts others : List (List α)}

/-- Behind a part, a word begins for the first time: in no way can the text be written with the word
any further to the front, also not so that it overlaps. -/
def BeginsFirst (wanted part rest : List α) : Prop :=
  ∀ before after, part ++ wanted ++ rest = before ++ wanted ++ after → part.length ≤ before.length

/-- The parts of a text between the occurrences of a word. Every part but the last one reaches to
the first occurrence in what is left of the text, and the last one holds none. -/
structure IsCutAt (wanted text : List α) (parts : List (List α)) : Prop where
  filled : parts ≠ []
  joined : wanted.intercalate parts = text
  first : ∀ part rest, part :: rest <:+ parts → rest ≠ [] →
    BeginsFirst wanted part (wanted.intercalate rest)
  last : ∀ part, parts.getLast? = some part → ¬ wanted <:+: part

/-- A word that occurs in a text occurs there for the first time. -/
theorem exists_beginsFirst (occurs : wanted <:+: text) :
    ∃ part rest, text = part ++ wanted ++ rest ∧ BeginsFirst wanted part rest := by
  induction text with
  | nil =>
    obtain rfl := List.infix_nil.mp occurs
    exact ⟨[], [], rfl, fun _ _ _ => Nat.zero_le _⟩
  | cons letter text ih =>
    by_cases here : wanted <+: letter :: text
    · obtain ⟨rest, split⟩ := here
      exact ⟨[], rest, split.symm, fun _ _ _ => Nat.zero_le _⟩
    · obtain ⟨part, rest, rfl, first⟩ := ih ((List.infix_cons_iff.mp occurs).resolve_left here)
      refine ⟨letter :: part, rest, rfl, ?_⟩
      intro before after split
      cases before with
      | nil => exact absurd ⟨after, split.symm⟩ here
      | cons _ before => exact Nat.succ_le_succ (first before after (List.cons.inj split).2)

/-- A word begins for the first time at one position only. -/
theorem BeginsFirst.unique {rest' : List α} (first : BeginsFirst wanted part rest)
    (first' : BeginsFirst wanted other rest')
    (same : part ++ wanted ++ rest = other ++ wanted ++ rest') : part = other ∧ rest = rest' := by
  have length : part.length = other.length :=
    Nat.le_antisymm (first _ _ same) (first' _ _ same.symm)
  rw [List.append_assoc, List.append_assoc] at same
  obtain ⟨parts, behind⟩ := List.append_inj same length
  exact ⟨parts, List.append_cancel_left behind⟩

theorem isCutAt_singleton_iff : IsCutAt wanted text [part] ↔ text = part ∧ ¬ wanted <:+: part := by
  constructor
  · intro cut
    have joined := cut.joined
    rw [List.intercalate_singleton] at joined
    exact ⟨joined.symm, cut.last part rfl⟩
  · rintro ⟨rfl, absent⟩
    refine ⟨List.cons_ne_nil _ _, List.intercalate_singleton, ?_, ?_⟩
    · intro part rest suffix filled
      have shorter := suffix.length_le
      have : 0 < rest.length := List.length_pos_iff.mpr filled
      simp only [List.length_cons, List.length_nil] at shorter
      omega
    · rintro _ ⟨⟩
      exact absent

/-- The first part is cut off, and what is behind the occurrence is cut on its own. -/
theorem isCutAt_cons_iff (more : others ≠ []) :
    IsCutAt wanted text (part :: others) ↔
      ∃ rest, text = part ++ wanted ++ rest ∧ BeginsFirst wanted part rest ∧
        IsCutAt wanted rest others := by
  obtain ⟨second, third, rfl⟩ := List.exists_cons_of_ne_nil more
  constructor
  · intro cut
    have joined := cut.joined
    rw [List.intercalate_cons_cons] at joined
    refine ⟨_, joined.symm, cut.first part _ (List.suffix_refl _) more, more, rfl, ?_, ?_⟩
    · exact fun part rest suffix => cut.first part rest (suffix.trans (List.suffix_cons _ _))
    · intro part last
      exact cut.last part (by rwa [List.getLast?_cons_cons])
  · rintro ⟨rest, rfl, begins, cut⟩
    refine ⟨List.cons_ne_nil _ _, ?_, ?_, ?_⟩
    · rw [List.intercalate_cons_cons, cut.joined]
    · intro part rest suffix filled
      rcases List.suffix_cons_iff.mp suffix with same | later
      · cases same
        rwa [cut.joined]
      · exact cut.first part rest later filled
    · intro part last
      exact cut.last part (by rwa [List.getLast?_cons_cons] at last)

theorem isCutAt_of_absent (absent : ¬ wanted <:+: text) : IsCutAt wanted text [text] :=
  isCutAt_singleton_iff.mpr ⟨rfl, absent⟩

theorem infix_of_isCutAt_cons (more : others ≠ []) (cut : IsCutAt wanted text (part :: others)) :
    wanted <:+: text := by
  obtain ⟨rest, rfl, -, -⟩ := (isCutAt_cons_iff more).mp cut
  exact ⟨part, rest, rfl⟩

/-- Every text can be cut. What is left behind an occurrence is shorter. -/
theorem exists_isCutAt (nonempty : wanted ≠ []) (text : List α) :
    ∃ parts, IsCutAt wanted text parts := by
  induction size : text.length using Nat.strong_induction_on generalizing text with
  | _ size ih =>
    by_cases occurs : wanted <:+: text
    · obtain ⟨part, rest, rfl, first⟩ := exists_beginsFirst occurs
      have shorter : rest.length < (part ++ wanted ++ rest).length := by
        have : 0 < wanted.length := List.length_pos_iff.mpr nonempty
        simp only [List.length_append]
        omega
      obtain ⟨parts, cut⟩ := ih _ (size ▸ shorter) rest rfl
      exact ⟨part :: parts, (isCutAt_cons_iff cut.filled).mpr ⟨rest, rfl, first, cut⟩⟩
    · exact ⟨[text], isCutAt_of_absent occurs⟩

/-- A text is cut in one way, because each part ends at the first occurrence of the word in what the
parts in front of it have left. -/
theorem IsCutAt.unique (cut : IsCutAt wanted text parts) (cut' : IsCutAt wanted text others) :
    parts = others := by
  induction parts generalizing text others with
  | nil => exact absurd rfl cut.filled
  | cons part parts ih =>
    obtain ⟨other, others, rfl⟩ := List.exists_cons_of_ne_nil cut'.filled
    by_cases alone : parts = [] <;> by_cases alone' : others = []
    · subst alone alone'
      rw [← (isCutAt_singleton_iff.mp cut).1, ← (isCutAt_singleton_iff.mp cut').1]
    · subst alone
      obtain ⟨rfl, absent⟩ := isCutAt_singleton_iff.mp cut
      exact absurd (infix_of_isCutAt_cons alone' cut') absent
    · subst alone'
      obtain ⟨rfl, absent⟩ := isCutAt_singleton_iff.mp cut'
      exact absurd (infix_of_isCutAt_cons alone cut) absent
    · obtain ⟨rest, rfl, first, onward⟩ := (isCutAt_cons_iff alone).mp cut
      obtain ⟨rest', same, first', onward'⟩ := (isCutAt_cons_iff alone').mp cut'
      obtain ⟨rfl, rfl⟩ := first.unique first' same
      rw [ih onward onward']

theorem BeginsFirst.absent (first : BeginsFirst wanted part rest) :
    ∀ back, back <:+ part → back ≠ [] → ¬ wanted <+: back ++ (wanted ++ rest) := by
  rintro back ⟨front, rfl⟩ filled ⟨after, found⟩
  have later := first front after (by simp only [List.append_assoc, found])
  have : 0 < back.length := List.length_pos_iff.mpr filled
  rw [List.length_append] at later
  omega

variable [DecidableEq α]

/-- A word begins for the first time behind a part if it begins at none of its letters. -/
theorem beginsFirst_iff :
    BeginsFirst wanted part rest ↔
      ∀ count < part.length, ¬ wanted.isPrefixOf ((part ++ wanted ++ rest).drop count) = true := by
  simp only [List.isPrefixOf_iff_prefix]
  constructor
  · rintro first count inside ⟨after, found⟩
    have later := first ((part ++ wanted ++ rest).take count) after (by
      rw [List.append_assoc (List.take _ _), found, List.take_append_drop])
    have := List.length_take_le count (part ++ wanted ++ rest)
    omega
  · intro absent before after split
    by_contra inside
    refine absent before.length (Nat.not_le.mp inside) ⟨after, ?_⟩
    rw [split, List.append_assoc, List.drop_left]

instance : Decidable (BeginsFirst wanted part rest) :=
  decidable_of_iff _ beginsFirst_iff.symm

/-- The parts stay, and the substitute stands between them. What was put in is never searched, so
this holds for every substitute. -/
theorem IsCutAt.replaceFrom_eq (nonempty : wanted ≠ []) (cut : IsCutAt wanted text parts)
    (substitute : List α) :
    replaceFrom wanted substitute 0 text = substitute.intercalate parts := by
  induction parts generalizing text with
  | nil => exact absurd rfl cut.filled
  | cons part parts ih =>
    by_cases alone : parts = []
    · subst alone
      obtain ⟨rfl, absent⟩ := isCutAt_singleton_iff.mp cut
      have kept : ∀ back, back <:+ text → back ≠ [] → ¬ wanted <+: back ++ [] := by
        intro back suffix _ found
        rw [List.append_nil] at found
        exact absent (found.isInfix.trans suffix.isInfix)
      simpa [replaceFrom] using replaceFrom_append_of_absent kept substitute
    · obtain ⟨rest, rfl, first, onward⟩ := (isCutAt_cons_iff alone).mp cut
      obtain ⟨second, others, rfl⟩ := List.exists_cons_of_ne_nil alone
      rw [List.append_assoc, replaceFrom_append_of_absent first.absent,
        replaceFrom_append_left nonempty, ih onward, List.intercalate_cons_cons, List.append_assoc]

/-- Replacing a word joins the parts between its occurrences by the substitute, and there is one
way to cut the text into them. A text without the word is one part, and it stays, as every text does
when the word is empty. -/
theorem replace_joins_parts (text substitute : String) :
    (∀ wanted : String, wanted ≠ "" →
      (∃! parts, IsCutAt wanted.toList text.toList parts) ∧
        (∀ parts, IsCutAt wanted.toList text.toList parts →
          (replace text wanted substitute).toList = substitute.toList.intercalate parts ∧
            (parts.length = 1 ↔ ¬ wanted.toList <:+: text.toList)) ∧
        (¬ wanted.toList <:+: text.toList → replace text wanted substitute = text)) ∧
      replace text "" substitute = text := by
  refine ⟨fun wanted filled => ?_, replace_empty text substitute⟩
  have nonempty : wanted.toList ≠ [] := by simpa using filled
  have joins : ∀ parts, IsCutAt wanted.toList text.toList parts →
      (replace text wanted substitute).toList = substitute.toList.intercalate parts := by
    intro parts cut
    rw [replace, if_neg (by simpa using filled), String.toList_ofList,
      cut.replaceFrom_eq nonempty]
  refine ⟨?_, fun parts cut => ⟨joins parts cut, ?_⟩, fun absent => ?_⟩
  · obtain ⟨parts, cut⟩ := exists_isCutAt nonempty text.toList
    exact ⟨parts, cut, fun others cut' => cut'.unique cut⟩
  · constructor
    · intro alone
      obtain ⟨part, rfl⟩ := List.length_eq_one_iff.mp alone
      obtain ⟨same, absent⟩ := isCutAt_singleton_iff.mp cut
      rwa [same]
    · intro absent
      rw [cut.unique (isCutAt_of_absent absent), List.length_singleton]
  · have kept := joins _ (isCutAt_of_absent absent)
    rw [List.intercalate_singleton] at kept
    exact String.toList_inj.mp kept

/-- The word overlaps itself in the text, and the substitute holds it. -/
theorem overlapping_joins_parts :
    IsCutAt "aa".toList "aaa-aaé".toList ["".toList, "a-".toList, "é".toList] ∧
      replace "aaa-aaé" "aa" "<aa>" = "<aa>a-<aa>é" ∧ replace "a-é" "aa" "<aa>" = "a-é" := by
  have filled : "aa" ≠ "" := by decide
  have cut : IsCutAt "aa".toList "aaa-aaé".toList ["".toList, "a-".toList, "é".toList] := by
    refine (isCutAt_cons_iff (List.cons_ne_nil _ _)).mpr ⟨"a-aaé".toList, rfl, by decide, ?_⟩
    refine (isCutAt_cons_iff (List.cons_ne_nil _ _)).mpr ⟨"é".toList, rfl, by decide, ?_⟩
    exact isCutAt_singleton_iff.mpr ⟨rfl, by decide⟩
  have joined := (((replace_joins_parts "aaa-aaé" "<aa>").1 "aa" filled).2.1 _ cut).1
  have kept := ((replace_joins_parts "a-é" "<aa>").1 "aa" filled).2.2 (by decide)
  exact ⟨cut, String.toList_inj.mp joined, kept⟩

end UnityBuild.Text
