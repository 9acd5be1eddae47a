import UnityBuild.Proofs.Expansion.Graph

/-!
# Expanding in place

The chain can end an expansion, but it never shows in what an expansion yields. So an entry expands
into what its named includes expand into when each of them is expanded on its own. The converse
needs the graph: an include that leads back to its includer would succeed nowhere, on its own or in
place, so a success on its own is a success in place.
-/

namespace UnityBuild

namespace Sources

variable {sources : Sources} {base : String}

/-- Expansions of an entry that succeed below two chains agree. The chain decides whether an
expansion fails, and has no other influence on it. -/
theorem yields_unique {chain other : List String} {entry : Entry} {entries entries' : List Entry}
    (h : sources.Yields base chain entry entries) (h' : sources.Yields base other entry entries') :
    entries = entries' := by
  have known : sources.Known base chain entry := h.1
  refine expansion_induction (motive := fun chain entry => ∀ other entries entries',
    sources.Yields base chain entry entries → sources.Yields base other entry entries' →
      entries = entries') (fun chain entry known ih other entries entries' h h' => ?_)
    known other entries entries' h h'
  obtain ⟨fresh, bytes, read, parts, all, rfl⟩ := (yields_iff known).mp h
  obtain ⟨-, bytes', read', parts', all', rfl⟩ := (yields_iff h'.1).mp h'
  cases read.symm.trans read'
  refine congrArg List.flatten (forall₂_unique all all' fun reference named part part' => ?_)
  intro contributes contributes'
  unfold Contributes at contributes contributes'
  split at contributes
  · rename_i unified
    rw [if_pos unified] at contributes'
    exact ih bytes fresh read reference (List.mem_filter.mp named).1 _ _ _ contributes contributes'
  · rename_i plain
    rw [if_neg plain] at contributes'
    rw [contributes, contributes']

theorem Clear.mono {chain other : List String} {path : String}
    (clear : sources.Clear base chain path) (fewer : ∀ earlier ∈ other, earlier ∈ chain) :
    sources.Clear base other path := by
  intro reached way
  obtain ⟨readable, fresh, acyclic⟩ := clear reached way
  exact ⟨readable, fun member => fresh (fewer reached member), acyclic⟩

/-- An include that is clear never leads back to its includer. -/
theorem Clear.append_of_includes {chain : List String} {path included : String}
    (clear : sources.Clear base chain included) (edge : sources.Includes base path included) :
    sources.Clear base (chain ++ [path]) included := by
  intro reached way
  obtain ⟨readable, fresh, acyclic⟩ := clear reached way
  have other : reached ≠ path := by
    rintro rfl
    exact acyclic (.head' edge way)
  exact ⟨readable, by simp [fresh, other], acyclic⟩

/-- What yields below two chains is the same when both are clear. -/
theorem Yields.of_clear (absolute : Path.isAbsolute base = true) {chain other : List String}
    {entry : Entry} {entries : List Entry} (h : sources.Yields base chain entry entries)
    (known : sources.Known base other entry)
    (clear : sources.Clear base other (resolve base entry.file)) :
    sources.Yields base other entry entries := by
  obtain ⟨entries', h'⟩ := (exists_yields_iff_clear absolute known).mpr clear
  rwa [yields_unique h h']

/-- A success below a chain is a success without it: what is clear below many sources is clear below
none of them. -/
theorem Yields.alone (absolute : Path.isAbsolute base = true) {chain : List String}
    {entry : Entry} {entries : List Entry} (h : sources.Yields base chain entry entries) :
    sources.Yields base [] entry entries := by
  have clear := (exists_yields_iff_clear absolute h.1).mp ⟨entries, h⟩
  exact h.of_clear absolute (.inl rfl) (clear.mono (by simp))

/-- From an absolute base, the entry for a plain include is resolved already. -/
theorem resolved_forInclude (absolute : Path.isAbsolute base = true) (entry : Entry)
    (reference : String) :
    (entry.forInclude base reference).resolved base = entry.forInclude base reference := by
  simp [Entry.resolved, Entry.forInclude, resolve_resolve absolute]

/-- Passing the entry for an include through an expansion of its own gives what the include
contributes without a chain. -/
theorem expand_forInclude_eq_ok_iff (absolute : Path.isAbsolute base = true) {entry : Entry}
    {reference : String} {part : List Entry} :
    (sources.expand base (entry.forInclude base reference)).result = .ok part ↔
      sources.Contributes base [] entry reference part := by
  rw [Contributes]
  split
  · rename_i unified
    rw [expand_eq_ok_iff_yields unified]
  · rename_i plain
    rw [expand_eq_ok_iff_resolved (by simpa using plain), resolved_forInclude absolute]

/-- In place, a named include contributes what it expands into on its own. -/
theorem contributes_append_iff (absolute : Path.isAbsolute base = true) {entry : Entry}
    {bytes : Bytes} (read : sources.read (resolve base entry.file) = .ok bytes)
    {reference : String} (named : reference ∈ namedPaths bytes) {part : List Entry} :
    sources.Contributes base [resolve base entry.file] entry reference part ↔
      sources.Contributes base [] entry reference part := by
  unfold Contributes
  split
  · rename_i unified
    constructor
    · exact fun h => h.alone absolute
    · intro h
      have edge : sources.Includes base (resolve base entry.file) (resolve base reference) :=
        ⟨bytes, read, reference, named, rfl, unified⟩
      have clear := (exists_yields_iff_clear absolute h.1).mp ⟨part, h⟩
      rw [← resolve_forInclude_file absolute entry reference] at edge
      exact h.of_clear absolute (known_forInclude read (List.mem_filter.mp named).1 _ entry)
        (clear.append_of_includes edge)
  · rfl

theorem directory_of_yields {chain : List String} {entry : Entry} {entries : List Entry}
    (h : sources.Yields base chain entry entries) :
    ∀ made ∈ entries, made.directory = entry.directory :=
  forall_mem_of_yields (motive := fun entry made => made.directory = entry.directory)
    (fun entry reference _ => Entry.forInclude_directory entry base reference)
    (fun _ _ _ same => same) h

theorem expand_eq_ok_iff_parts (absolute : Path.isAbsolute base = true) {entry : Entry}
    (unified : entry.isUnified = true) {bytes : Bytes}
    (read : sources.read (resolve base entry.file) = .ok bytes) {entries : List Entry} :
    (sources.expand base entry).result = .ok entries ↔
      ∃ parts, List.Forall₂ (fun reference part =>
        (sources.expand base (entry.forInclude base reference)).result = .ok part)
        (namedPaths bytes) parts ∧ entries = parts.flatten := by
  rw [expand_eq_ok_iff_yields unified, yields_iff (.inl rfl)]
  simp only [List.not_mem_nil, not_false_eq_true, true_and, List.nil_append, read,
    Except.ok.injEq, exists_eq_left', expand_forInclude_eq_ok_iff absolute]
  refine exists_congr fun parts => and_congr_left fun _ => ⟨fun all => ?_, fun all => ?_⟩
  · exact forall₂_imp_of_mem all fun reference named part =>
      (contributes_append_iff absolute read named).mp
  · exact forall₂_imp_of_mem all fun reference named part =>
      (contributes_append_iff absolute read named).mpr

/-- What the named includes of a source expand into, one after the other, is what its entry expands
into. -/
theorem expand_of_named (absolute : Path.isAbsolute base = true) {entry : Entry}
    (unified : entry.isUnified = true) {references : List String}
    (named : (sources.read (resolve base entry.file)).map namedPaths = .ok references)
    (parts : List (List Entry))
    (all : List.Forall₂ (fun reference part =>
      (sources.expand base (entry.forInclude base reference)).result = .ok part) references parts) :
    (sources.expand base entry).result = .ok parts.flatten := by
  obtain ⟨bytes, read, rfl⟩ := map_namedPaths_eq_ok_iff.mp named
  exact (expand_eq_ok_iff_parts absolute unified read).mpr ⟨parts, all, rfl⟩

/-- A source that includes plain files only expands into their entries. -/
theorem expand_of_plain_includes (absolute : Path.isAbsolute base = true) {entry : Entry}
    (unified : entry.isUnified = true) {references : List String}
    (named : (sources.read (resolve base entry.file)).map namedPaths = .ok references)
    (plain : ∀ reference ∈ references, (entry.forInclude base reference).isUnified = false) :
    (sources.expand base entry).result = .ok (references.map (entry.forInclude base)) := by
  rw [List.map_eq_flatMap, List.flatMap_def]
  refine expand_of_named absolute unified named _ ?_
  refine List.forall₂_map_right_iff.mpr (List.forall₂_same.mpr fun reference member => ?_)
  rw [expand_eq_ok_iff_resolved (plain reference member), resolved_forInclude absolute]

/-- A unified entry whose source is readable succeeds exactly when the entry for each of its named
includes succeeds when it is expanded afresh, and then yields what these yield, in the same order
and for the same directory. A plain include is passed on as it is, and no chain below which an entry
succeeds shows in what it yields. -/
theorem expand_in_place (absolute : Path.isAbsolute base = true) {entry : Entry}
    (unified : entry.isUnified = true) {bytes : Bytes}
    (read : sources.read (resolve base entry.file) = .ok bytes) :
    ((∃ entries, (sources.expand base entry).result = .ok entries) ↔
      ∀ reference ∈ namedPaths bytes,
        ∃ part, (sources.expand base (entry.forInclude base reference)).result = .ok part) ∧
    (∀ entries, (sources.expand base entry).result = .ok entries →
      (∃ parts, List.Forall₂ (fun reference part =>
        (sources.expand base (entry.forInclude base reference)).result = .ok part)
        (namedPaths bytes) parts ∧ entries = parts.flatten) ∧
      ∀ made ∈ entries, made.directory = entry.directory) ∧
    (∀ reference, (entry.forInclude base reference).isUnified = false →
      (sources.expand base (entry.forInclude base reference)).result =
        .ok [entry.forInclude base reference]) ∧
    ∀ chain known entries, (sources.expandUnified base chain entry known).result = .ok entries →
      (sources.expand base entry).result = .ok entries := by
  refine ⟨?_, fun entries success => ⟨?_, ?_⟩, fun reference plain => ?_,
    fun chain known entries success => ?_⟩
  · rw [← exists_forall₂_iff]
    simp only [expand_eq_ok_iff_parts absolute unified read]
    constructor
    · rintro ⟨_, parts, all, rfl⟩
      exact ⟨parts, all⟩
    · rintro ⟨parts, all⟩
      exact ⟨_, parts, all, rfl⟩
  · exact (expand_eq_ok_iff_parts absolute unified read).mp success
  · exact directory_of_yields ((expand_eq_ok_iff_yields unified).mp success)
  · rw [expand_forInclude_eq_ok_iff absolute, Contributes, plain]
    simp
  · exact (expand_eq_ok_iff_yields unified).mpr (Yields.alone absolute ⟨known, success⟩)

end Sources

/-- The second source of the diamond includes the third one twice, and so yields twice what the
third one yields. -/
theorem diamond_in_place :
    Path.isAbsolute "/r" = true ∧ (⟨"/d", "cc", "UnifiedSource2.c"⟩ : Entry).isUnified = true ∧
      (∃ bytes, FileSystem.diamond.view.read (resolve "/r" "UnifiedSource2.c") = .ok bytes) ∧
      (FileSystem.diamond.view.expand "/r" ⟨"/d", "cc", "UnifiedSource2.c"⟩).result =
        .ok [⟨"/d", "cc", "/r/a.c"⟩, ⟨"/d", "cc", "/r/a.c"⟩] := by
  have absolute : Path.isAbsolute "/r" = true := by decide
  have unified : (⟨"/d", "cc", "UnifiedSource2.c"⟩ : Entry).isUnified = true := by decide +kernel
  have unified₃ : (⟨"/d", "cc", "/r/UnifiedSource3.c"⟩ : Entry).isUnified = true := by
    decide +kernel
  have include₃ : (⟨"/d", "cc", "UnifiedSource2.c"⟩ : Entry).forInclude "/r" "UnifiedSource3.c" =
      ⟨"/d", "cc", "/r/UnifiedSource3.c"⟩ := by decide +kernel
  have include₄ : (⟨"/d", "cc", "/r/UnifiedSource3.c"⟩ : Entry).forInclude "/r" "a.c" =
      ⟨"/d", "cc", "/r/a.c"⟩ := by decide +kernel
  obtain ⟨bytes, read, named⟩ := Sources.map_namedPaths_eq_ok_iff.mp
    (show (FileSystem.diamond.view.read (resolve "/r" "UnifiedSource2.c")).map namedPaths =
      .ok ["UnifiedSource3.c", "UnifiedSource3.c"] by decide +kernel)
  have yields₃ : (FileSystem.diamond.view.expand "/r" ⟨"/d", "cc", "/r/UnifiedSource3.c"⟩).result =
      .ok [⟨"/d", "cc", "/r/a.c"⟩] := by
    have named : (FileSystem.diamond.view.read (resolve "/r" "/r/UnifiedSource3.c")).map
        namedPaths = .ok ["a.c"] := by decide +kernel
    have made := Sources.expand_of_plain_includes absolute unified₃ named (by decide +kernel)
    rwa [List.map_singleton, include₄] at made
  obtain ⟨succeeds, yields, -⟩ := Sources.expand_in_place absolute unified read
  rw [named] at succeeds yields
  simp only [include₃, yields₃, List.forall_mem_cons] at succeeds
  obtain ⟨entries, success⟩ := succeeds.mpr (by simp)
  obtain ⟨⟨parts, all, rfl⟩, -⟩ := yields entries success
  simp only [List.forall₂_cons_left_iff, List.forall₂_nil_left_iff, include₃, yields₃,
    Except.ok.injEq] at all
  obtain ⟨_, _, rfl, ⟨_, _, rfl, rfl, rfl⟩, rfl⟩ := all
  exact ⟨absolute, unified, ⟨bytes, read⟩, success⟩

end UnityBuild
