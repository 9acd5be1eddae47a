import UnityBuild.Path.Basic

/-!
# The steps of a path

The idle pieces of a path change nothing. What is left of its pieces are the steps. Reading a
reference from a base follows the steps of both, and names without a slash are the steps of the
text that joins them.
-/

namespace UnityBuild.Path

/-- The pieces of a path that lead somewhere. -/
def steps (path : String) : List String :=
  (pieces path).filter (!isIdle ·)

theorem baseName?_eq (path : String) : baseName? path = (steps path).getLast?.filter isName := rfl

theorem pieces_append_slash (left right : String) :
    pieces (left ++ "/" ++ right) = pieces left ++ pieces right := by
  have split : (left ++ "/" ++ right).toList = left.toList ++ '/' :: right.toList := by
    simp
  simp only [pieces, split, List.splitOn_append_cons_self, List.map_append]

theorem pieces_intercalate {names : List String} (h : names ≠ [])
    (slashless : ∀ name ∈ names, '/' ∉ name.toList) :
    pieces ("/".intercalate names) = names := by
  have joined : ("/".intercalate names).toList = ['/'].intercalate (names.map String.toList) := by
    simp
  have parts : ∀ letters ∈ names.map String.toList, '/' ∉ letters := by
    simpa using slashless
  rw [pieces, joined, List.splitOn_intercalate '/' parts (by simpa using h)]
  simp

theorem pieces_of_slashless {name : String} (slashless : '/' ∉ name.toList) :
    pieces name = [name] := by
  have whole := pieces_intercalate (List.cons_ne_nil name []) (by simpa using slashless)
  rwa [String.intercalate_singleton] at whole

theorem slash_not_mem_of_mem_pieces {path piece : String} (h : piece ∈ pieces path) :
    '/' ∉ piece.toList := by
  suffices ∀ letters : List Char, ∀ part ∈ letters.splitOn '/', '/' ∉ part by
    obtain ⟨part, member, rfl⟩ := List.mem_map.mp h
    simpa using this path.toList part member
  intro letters
  induction letters with
  | nil => simp
  | cons letter rest ih =>
    intro part member
    rw [List.splitOn_cons_eq_if_modifyHead] at member
    obtain ⟨first, others, split⟩ := List.exists_cons_of_ne_nil (List.splitOn_ne_nil '/' rest)
    rw [split] at member ih
    by_cases slash : letter = '/'
    · simp only [slash, beq_self_eq_true, if_true, List.mem_cons] at member
      rcases member with rfl | member
      · simp
      · exact ih part (by simpa using member)
    · simp only [beq_iff_eq, slash, if_false, List.modifyHead_cons, List.mem_cons] at member
      rcases member with rfl | member
      · simpa [Ne.symm slash] using ih first (by simp)
      · exact ih part (by simp [member])

theorem steps_of_isName {name : String} (slashless : '/' ∉ name.toList)
    (named : isName name = true) : steps name = [name] := by
  simp [steps, pieces_of_slashless slashless, isIdle_of_isName named]

@[simp] theorem steps_empty : steps "" = [] := by
  decide +kernel

theorem steps_append_slash (left right : String) :
    steps (left ++ "/" ++ right) = steps left ++ steps right := by
  simp only [steps, pieces_append_slash, List.filter_append]

/-- A slash at the end of a path adds no step. -/
theorem steps_append_of_endsWithSlash {left : String} (h : endsWithSlash left = true)
    (right : String) : steps (left ++ right) = steps left ++ steps right := by
  obtain ⟨front, split⟩ : ∃ front, left = front ++ "/" := by
    obtain ⟨letters, split⟩ := List.getLast?_eq_some_iff.mp (beq_iff_eq.mp h)
    exact ⟨String.ofList letters, String.toList_inj.mp (by simpa using split)⟩
  have trailing : steps (front ++ "/") = steps front := by
    simpa using steps_append_slash front ""
  rw [split, steps_append_slash, trailing]

/-- Reading a reference from a base follows the steps of the base first. -/
theorem steps_join (base reference : String) :
    steps (join base reference) =
      if isAbsolute reference then steps reference else steps base ++ steps reference := by
  unfold join
  by_cases absolute : isAbsolute reference = true
  · simp [absolute]
  by_cases empty : base = ""
  · simp [absolute, empty]
  by_cases slash : endsWithSlash base = true
  · simp [absolute, empty, slash, steps_append_of_endsWithSlash]
  · simp [absolute, empty, slash, steps_append_slash]

theorem utf8ByteSize_join_le (base reference : String) :
    (join base reference).utf8ByteSize ≤ base.utf8ByteSize + 1 + reference.utf8ByteSize := by
  have slash : "/".utf8ByteSize = 1 := by decide
  unfold join
  split
  · omega
  · split <;> simp only [String.utf8ByteSize_append, slash] <;> omega

theorem isAbsolute_append {left : String} (h : isAbsolute left = true) (right : String) :
    isAbsolute (left ++ right) = true := by
  obtain ⟨rest, split⟩ := List.head?_eq_some_iff.mp (beq_iff_eq.mp h)
  simp [isAbsolute, split]

theorem isAbsolute_join {base : String} (h : isAbsolute base = true) (reference : String) :
    isAbsolute (join base reference) = true := by
  have nonempty : base ≠ "" := by
    rintro rfl
    simp [isAbsolute] at h
  unfold join
  by_cases absolute : isAbsolute reference = true
  · simp [absolute]
  by_cases slash : endsWithSlash base = true
  · simpa [absolute, nonempty, slash] using isAbsolute_append h reference
  · simpa [absolute, nonempty, slash] using isAbsolute_append (isAbsolute_append h "/") reference

theorem steps_getLast?_of_baseName? {path name : String} (h : baseName? path = some name) :
    (steps path).getLast? = some name ∧ isName name = true := by
  rw [baseName?_eq] at h
  exact Option.filter_eq_some_iff.mp h

/-- A reference that has a base name keeps it when it is read from a base. -/
theorem baseName?_join {reference name : String} (named : baseName? reference = some name)
    (base : String) : baseName? (join base reference) = some name := by
  obtain ⟨last, isName⟩ := steps_getLast?_of_baseName? named
  rw [baseName?_eq, steps_join]
  split
  · simp [last, isName]
  · simp [List.getLast?_append, last, isName]

end UnityBuild.Path
