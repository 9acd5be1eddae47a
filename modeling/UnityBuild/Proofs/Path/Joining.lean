import Mathlib.Data.List.Induction
import UnityBuild.Proofs.Path.Resolution

/-!
# Resolving in stages

Reading a reference from a base follows the steps of the reference from where the base leads to. A
relative path and its normal form lead from every place to the same one: a name and the step up that
takes it away cancel each other wherever they are read. So it does not matter whether a base is
resolved before a reference is read from it or afterwards.
-/

namespace UnityBuild

namespace Path

theorem isAbsolute_append_of_ne_empty {left : String} (nonempty : left ≠ "") (right : String) :
    isAbsolute (left ++ right) = isAbsolute left := by
  obtain ⟨letter, letters, split⟩ : ∃ letter letters, left.toList = letter :: letters :=
    List.exists_cons_of_ne_nil (by simpa using nonempty)
  simp [isAbsolute, split]

/-- A relative reference is read from an absolute path exactly if its base is one. -/
theorem isAbsolute_join_of_relative {reference : String} (relative : isAbsolute reference = false)
    (base : String) : isAbsolute (join base reference) = isAbsolute base := by
  by_cases empty : base = ""
  · rw [empty, join_empty_base, relative]
    decide
  have slashed : base ++ "/" ≠ "" := by simp
  unfold join
  rw [if_neg (by simp [relative, empty])]
  split
  · exact isAbsolute_append_of_ne_empty empty reference
  · rw [isAbsolute_append_of_ne_empty slashed, isAbsolute_append_of_ne_empty empty]

end Path

namespace NormalPath

/-- The steps up and the names of a normal path. -/
def steps : NormalPath → List String
  | ⟨.root, names⟩ => names
  | ⟨.above levels, names⟩ => List.replicate levels ".." ++ names

theorem steps_text {path : NormalPath} (spelled : path.IsSpelled) :
    Path.steps path.text = path.steps := by
  obtain ⟨anchor, names⟩ := path
  cases anchor with
  | root => exact steps_text_root spelled
  | above levels => exact steps_text_above spelled

/-- Following a relative reference goes on from where its base leads to. -/
theorem ofText_join {reference : String} (relative : Path.isAbsolute reference = false)
    (base : String) :
    ofText (Path.join base reference) = (Path.steps reference).foldl enter (ofText base) := by
  have steps := Path.steps_join base reference
  rw [if_neg (by simp [relative])] at steps
  have anchor : start (Path.join base reference) = start base := by
    rw [start, Path.isAbsolute_join_of_relative relative, start]
  rw [ofText_eq_foldl_steps, steps, List.foldl_append, anchor, ← ofText_eq_foldl_steps]

theorem exists_above_of_enter (levels : Nat) (names : List String) (piece : String) :
    ∃ levels' names', enter ⟨.above levels, names⟩ piece = ⟨.above levels', names'⟩ := by
  unfold enter
  split
  · exact ⟨_, _, rfl⟩
  · split
    · cases names <;> exact ⟨_, _, rfl⟩
    · exact ⟨_, _, rfl⟩

/-- A step that changes a relative path changes what it leads to in the same way. -/
theorem foldl_enter_steps_enter (levels : Nat) {names : List String}
    (named : ∀ name ∈ names, Path.isName name = true) (piece : String) (first : NormalPath) :
    (enter ⟨.above levels, names⟩ piece).steps.foldl enter first =
      ((steps ⟨.above levels, names⟩).foldl enter first).enter piece := by
  by_cases idle : Path.isIdle piece = true
  · simp only [enter_idle idle]
  by_cases up : piece = ".."
  · subst up
    rw [enter_parent]
    rcases List.eq_nil_or_concat names with rfl | ⟨front, last, rfl⟩
    · simp [leave, steps, List.replicate_succ']
    · have last_named : Path.isName last = true := named last (by simp)
      simp [steps, last_named]
  · have name : Path.isName piece = true := by simp [Path.isName, idle, up]
    simp [steps, name]

/-- What is proved of relative paths step by step holds of every relative path. -/
theorem foldl_enter_steps_foldl_enter (pieces : List String)
    (slashless : ∀ piece ∈ pieces, '/' ∉ piece.toList) (first : NormalPath) :
    ∃ levels names, pieces.foldl enter ⟨.above 0, []⟩ = ⟨.above levels, names⟩ ∧
      (⟨.above levels, names⟩ : NormalPath).IsSpelled ∧
      (steps ⟨.above levels, names⟩).foldl enter first = pieces.foldl enter first := by
  induction pieces using List.reverseRecOn with
  | nil => exact ⟨0, [], rfl, by simp [IsSpelled], rfl⟩
  | append_singleton pieces piece ih =>
    obtain ⟨levels, names, reached, spelled, same⟩ :=
      ih fun other member => slashless other (by simp [member])
    obtain ⟨levels', names', next⟩ := exists_above_of_enter levels names piece
    have spelled' := spelled.enter (slashless piece (by simp))
    have step := foldl_enter_steps_enter levels (fun name member => (spelled name member).1)
      piece first
    rw [next] at spelled' step
    refine ⟨levels', names', ?_, spelled', ?_⟩
    · rw [List.foldl_append, reached]
      exact next
    · rw [step, same, List.foldl_append]
      rfl

/-- A relative path and the text of its normal form lead from every place to the same one. -/
theorem foldl_enter_steps_text {path : String} (relative : Path.isAbsolute path = false)
    (first : NormalPath) :
    Path.isAbsolute (ofText path).text = false ∧
      (Path.steps (ofText path).text).foldl enter first = (Path.steps path).foldl enter first := by
  obtain ⟨levels, names, reached, spelled, same⟩ :=
    foldl_enter_steps_foldl_enter (Path.steps path)
      (fun piece member => Path.slash_not_mem_of_mem_pieces (List.mem_filter.mp member).1) first
  have normal : ofText path = ⟨.above levels, names⟩ := by
    rw [ofText_eq_foldl_steps, ← reached, start, relative]
    rfl
  rw [normal, steps_text spelled, same]
  exact ⟨isAbsolute_text_above spelled, rfl⟩

/-- A path keeps being absolute or relative when it is made normal. -/
theorem isAbsolute_text_ofText (path : String) :
    Path.isAbsolute (ofText path).text = Path.isAbsolute path := by
  cases absolute : Path.isAbsolute path with
  | true =>
    have root := anchor_ofText_of_isAbsolute absolute
    generalize ofText path = normal at root
    obtain ⟨anchor, names⟩ := normal
    cases root
    exact isAbsolute_text_root names
  | false => exact (foldl_enter_steps_text absolute (ofText path)).1

/-- A base may be resolved before a reference is read from it, or together with the reference. -/
theorem ofText_join_resolve (first base reference : String) :
    ofText (Path.join (resolve first base) reference) =
      ofText (Path.join first (resolve base reference)) := by
  have fixed : ∀ path, ofText (ofText path).text = ofText path := fun path =>
    ofText_text (isSpelled_ofText path)
  have kind := isAbsolute_text_ofText (Path.join base reference)
  simp only [resolve_eq]
  cases absolute : Path.isAbsolute reference with
  | true =>
    rw [Path.join_of_isAbsolute absolute, absolute] at kind
    rw [Path.join_of_isAbsolute absolute, Path.join_of_isAbsolute absolute,
      Path.join_of_isAbsolute kind, fixed]
  | false =>
    rw [ofText_join absolute, fixed]
    rw [Path.isAbsolute_join_of_relative absolute] at kind
    cases absolute' : Path.isAbsolute base with
    | true =>
      rw [absolute'] at kind
      rw [Path.join_of_isAbsolute absolute', Path.join_of_isAbsolute kind, fixed,
        ofText_join absolute]
    | false =>
      rw [absolute'] at kind
      have relative : Path.isAbsolute (Path.join base reference) = false := by
        rw [Path.isAbsolute_join_of_relative absolute, absolute']
      rw [ofText_join kind, (foldl_enter_steps_text relative _).2, Path.steps_join,
        if_neg (by simp [absolute]), List.foldl_append, ofText_join absolute']

end NormalPath

end UnityBuild
