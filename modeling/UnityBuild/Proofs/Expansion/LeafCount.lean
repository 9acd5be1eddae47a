import UnityBuild.Proofs.Expansion.InPlace

/-!
# The number of entries that a source stands for

A unified source stands for as many entries as the graph below it has leaves when it is unfolded: a
plain include is one leaf, and a unified one has the leaves of its own source, once for every time
it is included. The unfolding is cut off at a depth, so that it ends on every graph. No chain grows
longer than its room, and so the cut is never reached where an expansion succeeds: there the number
of leaves of a source is the sum over its named includes.
-/

namespace UnityBuild

namespace Sources

variable {sources : Sources} {base : String}

/-- The leaves that one include adds, given the number of leaves of each source. -/
def leavesOf (base : String) (count : String → Nat) (reference : String) : Nat :=
  if Path.isUnified (resolve base reference) then count (resolve base reference) else 1

/-- The leaves below a source, with unified includes followed through so many sources at most. -/
def leafCountWithin (sources : Sources) (base : String) : (depth : Nat) → String → Nat
  | 0, _ => 0
  | depth + 1, path =>
    match sources.read path with
    | .ok bytes => ((namedPaths bytes).map (leavesOf base (sources.leafCountWithin base depth))).sum
    | .error _ => 0

/-- The leaves below a source, each counted as often as there are ways to it. The depth is as large
as any chain can grow, so nothing that an expansion reaches is cut off. -/
def leafCount (sources : Sources) (base path : String) : Nat :=
  sources.leafCountWithin base (sources.room base []) path

theorem leafCountWithin_succ {path : String} {bytes : Bytes}
    (read : sources.read path = .ok bytes) (depth : Nat) :
    sources.leafCountWithin base (depth + 1) path =
      ((namedPaths bytes).map (leavesOf base (sources.leafCountWithin base depth))).sum := by
  rw [leafCountWithin, read]

/-- A chain that grows by a fresh source leaves room for one step less. -/
theorem exists_depth_of_room {chain : List String} {entry : Entry}
    (known : sources.Known base chain entry) (fresh : resolve base entry.file ∉ chain)
    {depth : Nat} (deep : sources.room base chain ≤ depth) :
    ∃ below, depth = below + 1 ∧
      sources.room base (chain ++ [resolve base entry.file]) ≤ below := by
  have smaller := room_append_lt fresh known
  exact ⟨depth - 1, by omega, by omega⟩

/-- An expansion makes one entry for each leaf, when its room is deep enough to unfold. -/
theorem length_of_yields (absolute : Path.isAbsolute base = true) {chain : List String}
    {entry : Entry} {entries : List Entry} (yields : sources.Yields base chain entry entries)
    {depth : Nat} (deep : sources.room base chain ≤ depth) :
    entries.length = sources.leafCountWithin base depth (resolve base entry.file) := by
  refine expansion_induction (motive := fun chain entry => ∀ entries depth,
    sources.Yields base chain entry entries → sources.room base chain ≤ depth →
      entries.length = sources.leafCountWithin base depth (resolve base entry.file))
    (fun chain entry known ih entries depth yields deep => ?_) yields.1 entries depth yields deep
  obtain ⟨fresh, bytes, read, parts, all, rfl⟩ := (yields_iff known).mp yields
  obtain ⟨below, rfl, smaller⟩ := exists_depth_of_room known fresh deep
  rw [leafCountWithin_succ read]
  refine length_flatten_of_forall₂ all fun reference named part contributes => ?_
  rw [Contributes, Entry.isUnified_eq, Entry.forInclude_file] at contributes
  split at contributes
  · rename_i unified
    have nested := ih bytes fresh read reference (List.mem_filter.mp named).1 part below
      contributes smaller
    rw [nested, resolve_forInclude_file absolute, leavesOf, if_pos unified]
  · rename_i plain
    rw [contributes, leavesOf, if_neg plain, List.length_singleton]

/-- Where an expansion succeeds, unfolding deeper finds no more leaves, because the chain has no
room for sources below that depth. -/
theorem leafCountWithin_eq_leafCount (absolute : Path.isAbsolute base = true)
    {chain : List String} {entry : Entry} (known : sources.Known base chain entry)
    (clear : sources.Clear base chain (resolve base entry.file)) {depth : Nat}
    (deep : sources.room base chain ≤ depth) :
    sources.leafCountWithin base depth (resolve base entry.file) =
      sources.leafCount base (resolve base entry.file) := by
  obtain ⟨entries, yields⟩ := (exists_yields_iff_clear absolute known).mpr clear
  have alone := length_of_yields absolute (yields.alone absolute) (Nat.le_refl _)
  rw [← length_of_yields absolute yields deep, alone, leafCount]

/-- The leaves of a source are those of its named includes. An include that is plain is one leaf,
and an include that is unified has the leaves of its own source. -/
theorem leafCount_eq_sum (absolute : Path.isAbsolute base = true) {file : String} {bytes : Bytes}
    (clear : sources.Clear base [] (resolve base file))
    (read : sources.read (resolve base file) = .ok bytes) :
    sources.leafCount base (resolve base file) =
      ((namedPaths bytes).map (leavesOf base (sources.leafCount base))).sum := by
  let entry : Entry := ⟨"", "", file⟩
  have known : sources.Known base [] entry := .inl rfl
  obtain ⟨below, split, deep⟩ := exists_depth_of_room known List.not_mem_nil (Nat.le_refl _)
  rw [leafCount, split, leafCountWithin_succ read]
  refine congrArg List.sum (List.map_congr_left fun reference named => ?_)
  unfold leavesOf
  split
  · rename_i unified
    have edge : sources.Includes base (resolve base file) (resolve base reference) :=
      ⟨bytes, read, reference, named, rfl, unified⟩
    have further := (clear_iff.mp clear).2.2 _ edge
    rw [← resolve_forInclude_file absolute entry reference] at further ⊢
    exact leafCountWithin_eq_leafCount absolute
      (known_forInclude read (List.mem_filter.mp named).1 _ entry) further deep
  · rfl

/-- The leaves of a source, given the includes that its text names. -/
theorem leafCount_of_named (absolute : Path.isAbsolute base = true) {file : String}
    (references : List String) (clear : sources.Clear base [] (resolve base file))
    (h : (sources.read (resolve base file)).map namedPaths = .ok references) :
    sources.leafCount base (resolve base file) =
      (references.map (leavesOf base (sources.leafCount base))).sum := by
  obtain ⟨bytes, read, rfl⟩ := map_namedPaths_eq_ok_iff.mp h
  exact leafCount_eq_sum absolute clear read

/-- Whatever is reached from a resolved path is a resolved path. -/
theorem exists_file_of_reach {file path : String}
    (way : Relation.ReflTransGen (sources.Includes base) (resolve base file) path) :
    ∃ reached, path = resolve base reached := by
  cases way with
  | refl => exact ⟨file, rfl⟩
  | tail _ edge =>
    obtain ⟨-, -, reference, -, rfl, -⟩ := edge
    exact ⟨reference, rfl⟩

/-- Below an entry that expands, the leaves of every source are those of its named includes. -/
theorem leafCount_of_reach (absolute : Path.isAbsolute base = true) {entry : Entry}
    {entries : List Entry} (yields : sources.Yields base [] entry entries) {path : String}
    (way : Relation.ReflTransGen (sources.Includes base) (resolve base entry.file) path) :
    ∃ bytes, sources.read path = .ok bytes ∧
      sources.leafCount base path =
        ((namedPaths bytes).map (leavesOf base (sources.leafCount base))).sum := by
  have clear := (exists_yields_iff_clear absolute (.inl rfl)).mp ⟨entries, yields⟩
  obtain ⟨⟨bytes, read⟩, -, -⟩ := clear path way
  obtain ⟨file, rfl⟩ := exists_file_of_reach way
  exact ⟨bytes, read, leafCount_eq_sum absolute (fun reached on => clear reached (way.trans on))
    read⟩

end Sources

end UnityBuild
