import UnityBuild.Path.Normal
import UnityBuild.Proofs.Path.Steps

/-!
# Normal paths are fixed points

Following the pieces of a path only ever adds names that hold no slash, so the text of the normal
path that is reached spells exactly these names again. Reading that text once more leads to the same
normal path. In particular an absolute result of `resolve` can be read from any base, and a
reference keeps its base name when it is resolved.
-/

namespace UnityBuild

namespace NormalPath

/-- Every name of the path is a piece of its text: no name is idle, a step up, or holds a slash.
Only such paths can be read back from their texts. -/
def IsSpelled (path : NormalPath) : Prop :=
  ∀ name ∈ path.names, Path.isName name = true ∧ '/' ∉ name.toList

theorem IsSpelled.slashless {path : NormalPath} (h : path.IsSpelled) :
    ∀ name ∈ path.names, '/' ∉ name.toList :=
  fun name member => (h name member).2

theorem isName_of_step {piece : String} (idle : Path.isIdle piece = false)
    (parent : piece ≠ "..") : Path.isName piece = true := by
  simp [Path.isName, idle, parent]

theorem IsSpelled.leave {path : NormalPath} (h : path.IsSpelled) : path.leave.IsSpelled := by
  intro name member
  obtain ⟨anchor, names⟩ := path
  cases names with
  | nil => cases anchor <;> simp [NormalPath.leave] at member
  | cons first rest => exact h name ((List.dropLast_sublist _).subset member)

theorem IsSpelled.enter {path : NormalPath} (h : path.IsSpelled) {piece : String}
    (slashless : '/' ∉ piece.toList) : (path.enter piece).IsSpelled := by
  unfold NormalPath.enter
  by_cases idle : Path.isIdle piece = true
  · simpa [idle] using h
  by_cases parent : piece = ".."
  · simpa [parent, Path.isIdle] using h.leave
  · simp only [idle, parent, Bool.false_eq_true, if_false]
    intro name member
    rcases List.mem_append.mp member with member | member
    · exact h name member
    · rw [List.mem_singleton.mp member]
      exact ⟨isName_of_step (by simpa using idle) parent, slashless⟩

theorem foldl_enter_filter (pieces : List String) (path : NormalPath) :
    pieces.foldl enter path = (pieces.filter (!Path.isIdle ·)).foldl enter path := by
  induction pieces generalizing path with
  | nil => rfl
  | cons piece rest ih =>
    by_cases idle : Path.isIdle piece = true
    · simp [idle, enter_idle idle, ih]
    · simp [idle, ih]

theorem ofText_eq_foldl_steps (path : String) :
    ofText path = (Path.steps path).foldl enter (start path) :=
  foldl_enter_filter (Path.pieces path) (start path)

/-- The normal path that a text leads to has names without slashes only. -/
theorem isSpelled_ofText (path : String) : (ofText path).IsSpelled := by
  suffices ∀ (pieces : List String) (first : NormalPath), first.IsSpelled →
      (∀ piece ∈ pieces, '/' ∉ piece.toList) → (pieces.foldl enter first).IsSpelled from
    this _ _ (by simp [IsSpelled, start]) fun _ => Path.slash_not_mem_of_mem_pieces
  intro pieces
  induction pieces with
  | nil => exact fun _ spelled _ => spelled
  | cons piece rest ih =>
    intro first spelled slashless
    exact ih _ (spelled.enter (slashless piece (by simp)))
      fun other member => slashless other (by simp [member])

theorem anchor_enter_of_root {path : NormalPath} (h : path.anchor = .root) (piece : String) :
    (path.enter piece).anchor = .root := by
  obtain ⟨anchor, names⟩ := path
  subst h
  unfold enter
  split
  · rfl
  · split
    · cases names <;> rfl
    · rfl

theorem anchor_ofText_of_isAbsolute {path : String} (h : Path.isAbsolute path = true) :
    (ofText path).anchor = .root := by
  suffices ∀ (pieces : List String) (first : NormalPath), first.anchor = .root →
      (pieces.foldl enter first).anchor = .root from
    this _ _ (by simp [start, h])
  intro pieces
  induction pieces with
  | nil => exact fun _ root => root
  | cons piece rest ih => exact fun _ root => ih _ (anchor_enter_of_root root piece)

theorem foldl_enter_names {names : List String} (h : ∀ name ∈ names, Path.isName name = true)
    (path : NormalPath) : names.foldl enter path = ⟨path.anchor, path.names ++ names⟩ := by
  induction names generalizing path with
  | nil => simp
  | cons name rest ih =>
    have others : ∀ other ∈ rest, Path.isName other = true := fun other member =>
      h other (by simp [member])
    rw [List.foldl_cons, enter_name (h name (by simp)), ih others]
    simp

theorem foldl_enter_parents (count levels : Nat) :
    (List.replicate count "..").foldl enter ⟨.above levels, []⟩ =
      ⟨.above (levels + count), []⟩ := by
  induction count generalizing levels with
  | zero => rfl
  | succ count ih =>
    rw [List.replicate_succ, List.foldl_cons, enter_parent, leave, ih]
    simp only [NormalPath.mk.injEq, Anchor.above.injEq, and_true]
    omega

/-- The text of a path that starts at the root has its names as steps. -/
theorem steps_text_root {names : List String} (h : (⟨.root, names⟩ : NormalPath).IsSpelled) :
    Path.steps (text ⟨.root, names⟩) = names := by
  have kept : names.filter (!Path.isIdle ·) = names :=
    List.filter_eq_self.mpr fun name member => by simp [Path.isIdle_of_isName (h name member).1]
  have split : text ⟨.root, names⟩ = "" ++ "/" ++ "/".intercalate names := by
    simp [text]
  rw [split, Path.steps_append_slash, Path.steps_empty, List.nil_append]
  by_cases empty : names = []
  · simp [empty]
  · rw [Path.steps, Path.pieces_intercalate empty h.slashless, kept]

/-- The text of a relative path has as many steps up as it climbs levels, and then its names. -/
theorem steps_text_above {levels : Nat} {names : List String}
    (h : (⟨.above levels, names⟩ : NormalPath).IsSpelled) :
    Path.steps (text ⟨.above levels, names⟩) = List.replicate levels ".." ++ names := by
  have slashless : ∀ piece ∈ List.replicate levels ".." ++ names, '/' ∉ piece.toList := by
    intro piece member
    rcases List.mem_append.mp member with member | member
    · rw [(List.mem_replicate.mp member).2]
      decide
    · exact h.slashless piece member
  have kept : (List.replicate levels ".." ++ names).filter (!Path.isIdle ·) =
      List.replicate levels ".." ++ names := by
    refine List.filter_eq_self.mpr fun piece member => ?_
    rcases List.mem_append.mp member with member | member
    · rw [(List.mem_replicate.mp member).2]
      decide
    · simp [Path.isIdle_of_isName (h piece member).1]
  rw [text]
  by_cases empty : List.replicate levels ".." ++ names = []
  · simp [empty]
  · rw [Path.steps, Path.pieces_intercalate empty slashless, kept]

theorem isAbsolute_text_root (names : List String) :
    Path.isAbsolute (text ⟨.root, names⟩) = true := by
  simp [Path.isAbsolute, text]

theorem isAbsolute_text_above {levels : Nat} {names : List String}
    (h : (⟨.above levels, names⟩ : NormalPath).IsSpelled) :
    Path.isAbsolute (text ⟨.above levels, names⟩) = false := by
  have head : ∀ piece rest, '/' ∉ piece.toList → piece ≠ "" →
      Path.isAbsolute ("/".intercalate (piece :: rest)) = false := by
    intro piece rest slashless nonempty
    obtain ⟨letter, letters, split⟩ : ∃ letter letters, piece.toList = letter :: letters :=
      List.exists_cons_of_ne_nil (by simpa using nonempty)
    have other : letter ≠ '/' := by
      rintro rfl
      simp [split] at slashless
    cases rest <;> simp [Path.isAbsolute, split, other]
  cases levels with
  | succ levels => exact head _ _ (by decide) (by decide)
  | zero =>
    cases names with
    | nil => decide
    | cons name names =>
      obtain ⟨named, slashless⟩ := h name (by simp)
      refine head name names slashless ?_
      rintro rfl
      simp [Path.isName, Path.isIdle] at named

/-- Reading the text of a normal path leads back to it. -/
theorem ofText_text {path : NormalPath} (h : path.IsSpelled) : ofText path.text = path := by
  have named : ∀ name ∈ path.names, Path.isName name = true := fun name member => (h name member).1
  obtain ⟨anchor, names⟩ := path
  rw [ofText_eq_foldl_steps, start]
  cases anchor with
  | root =>
    rw [steps_text_root h, isAbsolute_text_root, foldl_enter_names named]
    simp
  | above levels =>
    rw [steps_text_above h, isAbsolute_text_above h, List.foldl_append]
    simp only [Bool.false_eq_true, if_false]
    rw [foldl_enter_parents, foldl_enter_names named]
    simp

/-- The base name of a path is the last name of the normal path it leads to. -/
theorem getLast?_names_ofText {path name : String} (h : Path.baseName? path = some name) :
    (ofText path).names.getLast? = some name := by
  obtain ⟨last, named⟩ := Path.steps_getLast?_of_baseName? h
  obtain ⟨front, split⟩ := List.getLast?_eq_some_iff.mp last
  rw [ofText_eq_foldl_steps, split, List.foldl_append, List.foldl_cons, List.foldl_nil,
    enter_name named]
  simp

/-- An absolute normal path has its last name as base name, and the root has none. -/
theorem baseName?_text_root {names : List String}
    (h : (⟨.root, names⟩ : NormalPath).IsSpelled) :
    Path.baseName? (text ⟨.root, names⟩) = names.getLast? := by
  rw [Path.baseName?_eq, steps_text_root h]
  cases last : names.getLast? with
  | none => rfl
  | some name =>
    have named := (h name (List.mem_of_getLast? last)).1
    simp [named]

end NormalPath

open NormalPath

/-- What an absolute base resolves a reference to: a path of names below the root. -/
theorem exists_resolve_eq_text {base : String} (h : Path.isAbsolute base = true)
    (reference : String) :
    ∃ names, ofText (Path.join base reference) = ⟨.root, names⟩ ∧
      (⟨.root, names⟩ : NormalPath).IsSpelled ∧ resolve base reference = text ⟨.root, names⟩ := by
  have root := anchor_ofText_of_isAbsolute (Path.isAbsolute_join h reference)
  have spelled := isSpelled_ofText (Path.join base reference)
  rw [resolve_eq]
  generalize ofText (Path.join base reference) = path at root spelled
  obtain ⟨anchor, names⟩ := path
  cases root
  exact ⟨names, rfl, spelled, rfl⟩

theorem isAbsolute_resolve {base : String} (h : Path.isAbsolute base = true)
    (reference : String) : Path.isAbsolute (resolve base reference) = true := by
  obtain ⟨names, -, -, resolved⟩ := exists_resolve_eq_text h reference
  rw [resolved]
  exact isAbsolute_text_root names

/-- Resolving is final: its absolute results stay as they are, whatever base they are read from. -/
theorem resolve_resolve {base : String} (h : Path.isAbsolute base = true)
    (reference other : String) :
    resolve other (resolve base reference) = resolve base reference := by
  rw [resolve_of_isAbsolute (isAbsolute_resolve h reference)]
  obtain ⟨names, -, spelled, resolved⟩ := exists_resolve_eq_text h reference
  rw [resolved, ofText_text spelled]

/-- A reference that has a base name keeps it when it is resolved. -/
theorem baseName?_resolve {base : String} (h : Path.isAbsolute base = true)
    {reference name : String} (named : Path.baseName? reference = some name) :
    Path.baseName? (resolve base reference) = some name := by
  obtain ⟨names, reached, spelled, resolved⟩ := exists_resolve_eq_text h reference
  rw [resolved, baseName?_text_root spelled]
  simpa [reached] using getLast?_names_ofText (Path.baseName?_join named base)

end UnityBuild
