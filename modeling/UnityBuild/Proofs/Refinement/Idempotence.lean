import UnityBuild.Proofs.Refinement.Survivors

/-!
# Refining a refined database

A plain entry whose file is resolved expands into itself, and a database of such entries is a fixed
point of every refinement with the same base. All that can keep a refined database from being one is
a unified entry, which stands for a disguised one. Such an entry is not disguised any more: its file
is resolved and shows what it is, and the next refinement expands it.
-/

namespace UnityBuild

namespace Sources

variable {sources : Sources} {base : String}

/-- Plain entries with resolved files are refined into themselves. -/
theorem expandAll_of_plain {entries : List Entry}
    (plain : ∀ entry ∈ entries, entry.isUnified = false)
    (resolved : ∀ entry ∈ entries, entry.resolved base = entry) :
    (sources.expandAll base entries).result.map Refined.entries = .ok entries := by
  have each : List.Forall₂ (fun entry part => (sources.expand base entry).result = .ok part)
      entries (entries.map fun entry => [entry]) := by
    refine List.forall₂_map_right_iff.mpr (List.forall₂_same.mpr fun entry member => ?_)
    rw [expand_eq_ok_iff_resolved (plain entry member), resolved entry member]
  rw [expandAll_eq_ok_iff.mpr ⟨_, each, rfl⟩]
  simp [Except.map, ← List.flatMap_def]

theorem not_isDisguised_of_resolved {entry : Entry} (resolved : entry.resolved base = entry) :
    ¬ entry.IsDisguised base := by
  rintro ⟨unnamed, unified⟩
  have same : resolve base entry.file = entry.file := congrArg Entry.file resolved
  rw [same, ← Entry.isUnified_eq, Entry.isUnified_of_baseName?_eq_none unnamed] at unified
  cases unified

/-- A refined database is refined into itself exactly when it is plain. -/
theorem expandAll_refined_iff (absolute : Path.isAbsolute base = true) {entries : List Entry}
    {refined : Refined} (h : (sources.expandAll base entries).result = .ok refined) :
    (sources.expandAll base refined.entries).result.map Refined.entries = .ok refined.entries ↔
      ∀ made ∈ refined.entries, made.isUnified = false := by
  have resolved := resolved_of_mem_refined absolute h
  constructor
  · intro fixed
    obtain ⟨again, success, same⟩ : ∃ again, (sources.expandAll base refined.entries).result =
        .ok again ∧ again.entries = refined.entries := by
      cases result : (sources.expandAll base refined.entries).result with
      | error failure => simp [result, Except.map] at fixed
      | ok again => exact ⟨again, rfl, by simpa [result, Except.map] using fixed⟩
    rw [← same]
    exact (refined_plain_iff absolute success).mpr fun made member =>
      not_isDisguised_of_resolved (resolved made member)
  · exact fun plain => expandAll_of_plain plain resolved

end Sources

/-- A refinement that succeeds can be repeated on its own result, without any change, exactly when
none of the given entries is disguised below its base. -/
theorem FileSystem.refine_idempotent_iff {fs : FileSystem} {root : String} {entries : List Entry}
    {refined : Refined} (h : (fs.view.refine root entries).result = .ok refined) :
    ∃ base, fs.view.absolute root = .ok base ∧
      ((fs.view.refine root refined.entries).result.map Refined.entries = .ok refined.entries ↔
        ∀ entry ∈ entries, ¬ entry.IsDisguised base) := by
  obtain ⟨directory, base, found, all⟩ := View.refine_eq_ok_iff.mp h
  have absolute := isAbsolute_of_absolute found
  refine ⟨base, found, ?_⟩
  rw [View.refine_of_base directory found, Sources.expandAll_refined_iff absolute all]
  exact Sources.refined_plain_iff absolute all

/-- What the entry for the unified source became is refined into itself. -/
theorem oneInclude_idempotent :
    (FileSystem.oneInclude.view.refine "/r" [⟨"/d", "cc", "UnifiedSource1.c"⟩]).result =
        .ok ⟨[⟨"/d", "cc", "/r/a.c"⟩], ⟨1, 1, 0, 1⟩⟩ ∧
      (FileSystem.oneInclude.view.refine "/r" [⟨"/d", "cc", "/r/a.c"⟩]).result.map
        Refined.entries = .ok [⟨"/d", "cc", "/r/a.c"⟩] := by
  have refined := oneInclude_refine (by decide +kernel)
    (by decide +kernel : resolve "/r" "UnifiedSource1.c" = "/r/UnifiedSource1.c")
    (by decide +kernel)
  obtain ⟨base, found, fixed⟩ := FileSystem.refine_idempotent_iff refined
  obtain rfl : "/r" = base := Except.ok.inj (oneInclude_absolute.symm.trans found)
  refine ⟨refined, fixed.mpr ?_⟩
  rw [List.forall_mem_singleton]
  decide +kernel

/-- A disguised entry stays the first time and is replaced the second time. -/
theorem disguised_refined_twice :
    (FileSystem.oneInclude.view.refine "/r" [⟨"/d", "cc", "UnifiedSource1.c/x/.."⟩]).result =
        .ok ⟨[⟨"/d", "cc", "/r/UnifiedSource1.c"⟩], ⟨1, 0, 1, 0⟩⟩ ∧
      (FileSystem.oneInclude.view.refine "/r" [⟨"/d", "cc", "/r/UnifiedSource1.c"⟩]).result.map
        Refined.entries ≠ .ok [⟨"/d", "cc", "/r/UnifiedSource1.c"⟩] := by
  refine ⟨by decide +kernel, ?_⟩
  rw [oneInclude_refine (by decide +kernel) (by decide +kernel) (by decide +kernel)]
  decide

end UnityBuild
