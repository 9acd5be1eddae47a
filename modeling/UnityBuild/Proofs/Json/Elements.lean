import UnityBuild.Proofs.Json.Skipping

/-!
# Between elements

What the readers of lists and objects go over between two values is told by the grammar: blanks,
commas, colons and brackets, and the quotes of a text. Each reader takes what the grammar allows in
its place, and nothing else.
-/

namespace UnityBuild.Json

theorem exists_of_mark {cursor : Cursor} {byte : UInt8}
    (mark : (cursor.skipBlank.rest.head? == some byte) = true) :
    ∃ blanks, Blank blanks ∧ cursor.rest = blanks ++ byte :: (cursor.skipBlank.skip 1).rest := by
  obtain ⟨blanks, blank, all⟩ := cursor.exists_skipBlank
  refine ⟨blanks, blank, ?_⟩
  cases front : cursor.skipBlank.rest with
  | nil => simp [front] at mark
  | cons other rest =>
    obtain rfl : other = byte := by simpa [front] using mark
    simpa [front] using all

/-! ## Elements and names -/

/-- An element is reached behind what stands in front of it. -/
theorem exists_of_nextElement {first : Bool} {cursor start : Cursor}
    (h : nextElement first cursor = .ok (true, start)) :
    ∃ comma blanks, Lead first comma ∧ Blank blanks ∧
      cursor.rest = comma ++ (blanks ++ start.rest) := by
  obtain ⟨blanks, blank, all⟩ := cursor.exists_skipBlank
  unfold nextElement at h
  dsimp only at h
  split at h
  · cases h
  · rename_i byte rest front
    split at h
    · cases h
    · split at h
      · rename_i isFirst
        cases h
        exact ⟨[], blanks, isFirst ▸ Lead.first, blank, all⟩
      · rename_i later
        split at h
        · rename_i comma
          obtain ⟨blanks', blank', behind⟩ := (cursor.skipBlank.skip 1).exists_skipBlank
          split at h
          · cases h
          · split at h
            · cases h
            · cases h
              obtain rfl := Bool.eq_false_iff.mpr later
              refine ⟨_, blanks', .more blank, blank', ?_⟩
              rw [← behind, all, front, comma]
              simp [front]
        · cases h

theorem exists_of_nextElement_end {first : Bool} {cursor stop : Cursor}
    (h : nextElement first cursor = .ok (false, stop)) :
    ∃ blanks, Blank blanks ∧ cursor.rest = blanks ++ 0x5D :: (stop.skip 1).rest := by
  obtain ⟨blanks, blank, all⟩ := cursor.exists_skipBlank
  unfold nextElement at h
  dsimp only at h
  repeat' split at h
  all_goals try cases h
  rename_i byte rest front bracket
  refine ⟨blanks, blank, ?_⟩
  rw [all, front, bracket]
  simp [front]

/-- A name is reached behind what stands in front of it and its quote. -/
theorem exists_of_nextName {first : Bool} {cursor start : Cursor}
    (h : nextName first cursor = .ok (true, start)) :
    ∃ comma blanks, Lead first comma ∧ Blank blanks ∧
      cursor.rest = comma ++ (blanks ++ 0x22 :: start.rest) := by
  obtain ⟨blanks, blank, all⟩ := cursor.exists_skipBlank
  unfold nextName at h
  dsimp only at h
  split at h
  · cases h
  · rename_i byte rest front
    split at h
    · cases h
    · split at h
      · rename_i isFirst
        split at h
        · rename_i quote
          cases h
          refine ⟨[], blanks, isFirst ▸ Lead.first, blank, ?_⟩
          rw [all, front, quote]
          simp [front]
        · cases h
      · rename_i later
        split at h
        · rename_i comma
          obtain ⟨blanks', blank', behind⟩ := (cursor.skipBlank.skip 1).exists_skipBlank
          split at h
          · cases h
          · rename_i byte' rest' front'
            split at h
            · rename_i quote
              cases h
              obtain rfl := Bool.eq_false_iff.mpr later
              refine ⟨_, blanks', .more blank, blank', ?_⟩
              rw [Cursor.rest_skip_one front] at behind
              rw [all, front, comma, behind, front', quote]
              simp [front']
            · split at h <;> cases h
        · cases h

theorem exists_of_nextName_end {first : Bool} {cursor stop : Cursor}
    (h : nextName first cursor = .ok (false, stop)) :
    ∃ blanks, Blank blanks ∧ cursor.rest = blanks ++ 0x7D :: (closeIf .object stop).rest := by
  obtain ⟨blanks, blank, all⟩ := cursor.exists_skipBlank
  unfold nextName at h
  dsimp only at h
  repeat' split at h
  all_goals try cases h
  rename_i byte rest front bracket
  refine ⟨blanks, blank, ?_⟩
  rw [bracket] at front
  have left : (closeIf .object cursor.skipBlank).rest = rest := rest_closeIf front
  rw [all, front, left]

section Marks

variable {comma blanks rest : Bytes} {byte : UInt8} {first : Bool}

theorem reads_nextElement (lead : Lead first comma) (blank : Blank blanks)
    (visible : Cursor.isBlank byte = false) (other : byte ≠ 0x5D) :
    Reads (nextElement first) (comma ++ (blanks ++ byte :: rest)) true (byte :: rest) := by
  cases lead with
  | first => exact reads_nextElement_first blank visible other
  | more blank' =>
    simpa using @reads_nextElement_more blanks rest byte _ blank' blank visible other

theorem reads_nextName (lead : Lead first comma) (blank : Blank blanks) :
    Reads (nextName first) (comma ++ (blanks ++ 0x22 :: rest)) true rest := by
  cases lead with
  | first => exact reads_nextName_first blank
  | more blank' => simpa using @reads_nextName_more blanks rest _ blank' blank

end Marks

/-! ## Colons, brackets and texts -/

theorem covers_readColon :
    Covers readColon fun text => ∃ blanks, Blank blanks ∧ text = blanks ++ [0x3A] := by
  intro cursor stop h
  obtain ⟨blanks, blank, all⟩ := cursor.exists_skipBlank
  unfold readColon at h
  dsimp only at h
  repeat' split at h
  all_goals try cases h
  rename_i byte rest front colon
  exact ⟨_, ⟨blanks, blank, rfl⟩, by rw [all, front, colon]; simp [front]⟩

theorem covers_endList :
    Covers endList fun text => ∃ blanks, Blank blanks ∧ text = blanks ++ [0x5D] := by
  intro cursor stop h
  obtain ⟨blanks, blank, all⟩ := cursor.exists_skipBlank
  unfold endList at h
  dsimp only at h
  repeat' split at h
  all_goals try cases h
  rename_i byte rest front bracket
  exact ⟨_, ⟨blanks, blank, rfl⟩, by rw [all, front, bracket]; simp [front]⟩

theorem passes_endList {blanks : Bytes} (blank : Blank blanks) (rest : Bytes) :
    Passes endList (blanks ++ 0x5D :: rest) rest := by
  intro cursor front
  have start := Cursor.rest_skipBlank front blank (by decide)
  exact ⟨cursor.skipBlank.skip 1, by simp [endList, start], by simp [start]⟩

theorem takes_readString :
    Takes readString fun text value =>
      ∃ blanks quoted, Blank blanks ∧ Quoted quoted value ∧ text = blanks ++ quoted := by
  intro cursor stop value h
  unfold readString at h
  dsimp only at h
  split at h
  · rename_i quote
    obtain ⟨blanks, blank, front⟩ := exists_of_mark quote
    obtain ⟨_, ⟨body, spelling, rfl⟩, behind⟩ := takes_readText h
    refine ⟨_, ⟨blanks, _, blank, ⟨body, spelling, rfl⟩, rfl⟩, ?_⟩
    rw [front, behind]
    simp
  · cases h

theorem reads_readString_quoted {blanks quoted : Bytes} {value : String} (blank : Blank blanks)
    (text : Quoted quoted value) (rest : Bytes) :
    Reads readString (blanks ++ (quoted ++ rest)) value rest := by
  obtain ⟨body, spelling, rfl⟩ := text
  have read := reads_readString blank (reads_readText_spelling spelling rest)
  simpa using read

end UnityBuild.Json
