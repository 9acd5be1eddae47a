import UnityBuild.Proofs.Expansion.LeafCount
import UnityBuild.Proofs.Refinement.Survivors

/-!
# How many entries a refinement makes

A plain entry becomes one entry, and a unified one as many as its source has leaves. So the number
of refined entries is known from the given ones and the graph of their sources, and the summary,
which is added up entry by entry from what the expansions gave, says the same.
-/

namespace UnityBuild

namespace Summary

theorem mk_add_mk (input unified passed made input' unified' passed' made' : Nat) :
    (⟨input, unified, passed, made⟩ + ⟨input', unified', passed', made'⟩ : Summary) =
      ⟨input + input', unified + unified', passed + passed', made + made'⟩ := rfl

/-- The summary of entries of which each unified one became so many and each plain one stayed. -/
theorem total_of_forall₂ {size : Entry → Nat} {entries : List Entry} {parts : List (List Entry)}
    (h : List.Forall₂ (fun entry part => part.length = if entry.isUnified then size entry else 1)
      entries parts) :
    total entries parts =
      ⟨entries.length, (entries.filter (·.isUnified)).length,
        (entries.filter (!·.isUnified)).length,
        ((entries.filter (·.isUnified)).map size).sum⟩ := by
  induction h with
  | nil => rfl
  | @cons entry part entries parts length _ ih =>
    rw [total_cons, ih, ofEntry]
    cases unified : entry.isUnified with
    | true =>
      have made : part.length = size entry := by simpa [unified] using length
      simp [unified, made, mk_add_mk, Nat.add_comm]
    | false =>
      have kept : part.length = 1 := by simpa [unified] using length
      simp [unified, kept, mk_add_mk, Nat.add_comm]

/-- As many entries are written as the parts have together. -/
theorem output_total {entries : List Entry} {parts : List (List Entry)}
    (h : entries.length = parts.length) : (total entries parts).output = parts.flatten.length := by
  induction entries generalizing parts with
  | nil =>
    rw [List.eq_nil_of_length_eq_zero h.symm]
    rfl
  | cons entry rest ih =>
    cases parts with
    | nil => simp at h
    | cons part parts =>
      rw [total_cons, output_add, output_ofEntry, ih (Nat.succ.inj h), List.flatten_cons,
        List.length_append]

end Summary

namespace Sources

variable {sources : Sources} {base : String}

/-- A unified entry becomes as many entries as its source has leaves. -/
theorem length_of_expand (absolute : Path.isAbsolute base = true) {entry : Entry}
    {part : List Entry} (h : (sources.expand base entry).result = .ok part) :
    part.length =
      if entry.isUnified then sources.leafCount base (resolve base entry.file) else 1 := by
  cases unified : entry.isUnified with
  | true =>
    have yields := (expand_eq_ok_iff_yields unified).mp h
    rw [if_pos rfl, leafCount, length_of_yields absolute yields (Nat.le_refl _)]
  | false =>
    rw [(expand_eq_ok_iff_resolved unified).mp h]
    rfl

def leafCountAll (sources : Sources) (base : String) (entries : List Entry) : Nat :=
  ((entries.filter (·.isUnified)).map fun entry =>
    sources.leafCount base (resolve base entry.file)).sum

/-- Both the refined entries and the summary are counted by the leaves of the given entries. -/
theorem counts_of_expandAll (absolute : Path.isAbsolute base = true) {entries : List Entry}
    {refined : Refined} (h : (sources.expandAll base entries).result = .ok refined) :
    refined.entries.length =
        (entries.filter (!·.isUnified)).length + sources.leafCountAll base entries ∧
      refined.summary =
        ⟨entries.length, (entries.filter (·.isUnified)).length,
          (entries.filter (!·.isUnified)).length, sources.leafCountAll base entries⟩ := by
  obtain ⟨parts, all, rfl⟩ := expandAll_eq_ok_iff.mp h
  have lengths := forall₂_imp_of_mem all fun entry _ part expanded =>
    length_of_expand absolute expanded
  have summary := Summary.total_of_forall₂ lengths
  refine ⟨?_, summary⟩
  -- The output of the summary is the length of the parts, whatever they are.
  calc parts.flatten.length = (Summary.total entries parts).output :=
        (Summary.output_total (lengths.length_eq)).symm
    _ = (entries.filter (!·.isUnified)).length + sources.leafCountAll base entries := by
        rw [summary]
        rfl

/-- Every unified entry of a list that expands has expanded below the empty chain. -/
theorem exists_yields_of_mem {entries : List Entry} {refined : Refined}
    (h : (sources.expandAll base entries).result = .ok refined) {entry : Entry}
    (member : entry ∈ entries) (unified : entry.isUnified = true) :
    ∃ part, sources.Yields base [] entry part := by
  obtain ⟨parts, all, rfl⟩ := expandAll_eq_ok_iff.mp h
  obtain ⟨part, expanded, -⟩ := exists_part_of_mem all member
  exact ⟨part, (expand_eq_ok_iff_yields unified).mp expanded⟩

end Sources

/-- A refinement makes one entry for each plain entry and one for each leaf below a unified entry.
The leaves of every source that is met are those of its named includes, and the summary counts the
given entries, both kinds of them, and the entries made. -/
theorem FileSystem.refine_counts {fs : FileSystem} {root : String} {entries : List Entry}
    {refined : Refined} (h : (fs.view.refine root entries).result = .ok refined) :
    ∃ base, fs.view.absolute root = .ok base ∧
      (∀ entry ∈ entries, entry.isUnified = true → ∀ path,
        Relation.ReflTransGen (fs.view.Includes base) (resolve base entry.file) path →
          ∃ bytes, fs.view.read path = .ok bytes ∧
            fs.view.leafCount base path = ((namedPaths bytes).map fun reference =>
              if Path.isUnified (resolve base reference) then
                fs.view.leafCount base (resolve base reference)
              else 1).sum) ∧
      refined.entries.length =
        (entries.filter (!·.isUnified)).length + fs.view.leafCountAll base entries ∧
      refined.summary.input = entries.length ∧
      refined.summary.unified + refined.summary.passedThrough = refined.summary.input ∧
      refined.summary.synthesized = fs.view.leafCountAll base entries ∧
      refined.summary.output = refined.entries.length := by
  obtain ⟨-, base, found, all⟩ := View.refine_eq_ok_iff.mp h
  have absolute := isAbsolute_of_absolute found
  obtain ⟨length, summary⟩ := Sources.counts_of_expandAll absolute all
  refine ⟨base, found, ?_, length, ?_⟩
  · intro entry member unified path way
    obtain ⟨part, yields⟩ := Sources.exists_yields_of_mem all member unified
    exact Sources.leafCount_of_reach absolute yields way
  · have kinds := List.length_eq_length_filter_add (l := entries) (·.isUnified)
    rw [summary, length]
    exact ⟨rfl, kinds.symm, rfl, rfl⟩

/-- The second source of the diamond includes the third one twice, so two entries are made for it
beside the one that stays. -/
theorem diamond_counts :
    ∃ refined, (FileSystem.diamond.view.refine "/r"
        [⟨"/d", "cc", "UnifiedSource2.c"⟩, ⟨"/d", "cc", "b.c"⟩]).result = .ok refined ∧
      refined.entries.length = 3 ∧ refined.summary.synthesized = 2 := by
  have absolute : Path.isAbsolute "/r" = true := rfl
  have unified : (⟨"/d", "cc", "UnifiedSource2.c"⟩ : Entry).isUnified = true := rfl
  have plain : (⟨"/d", "cc", "b.c"⟩ : Entry).isUnified = false := rfl
  have nested : Path.isUnified (resolve "/r" "UnifiedSource3.c") = true := by
    rw [diamond_third]
    rfl
  have clear₃ : FileSystem.diamond.view.Clear "/r" [] (resolve "/r" "UnifiedSource3.c") := by
    rw [diamond_third]
    exact diamond_clear_third (by simp)
  have clear₂ : FileSystem.diamond.view.Clear "/r" [] (resolve "/r" "UnifiedSource2.c") := by
    rw [diamond_second]
    exact diamond_clear_second (by simp) (by simp)
  have leaves₃ : FileSystem.diamond.view.leafCount "/r" (resolve "/r" "UnifiedSource3.c") = 1 := by
    rw [Sources.leafCount_of_named absolute ["a.c"] clear₃ (by rw [diamond_third]; rfl)]
    simp [Sources.leavesOf, diamond_leaf]
  have leaves₂ : FileSystem.diamond.view.leafCount "/r" (resolve "/r" "UnifiedSource2.c") = 2 := by
    rw [Sources.leafCount_of_named absolute ["UnifiedSource3.c", "UnifiedSource3.c"] clear₂
      (by rw [diamond_second]; rfl)]
    simp [Sources.leavesOf, nested, leaves₃]
  have known : FileSystem.diamond.view.Known "/r" [] ⟨"/d", "cc", "UnifiedSource2.c"⟩ := .inl rfl
  obtain ⟨part, yields⟩ := (Sources.exists_yields_iff_clear absolute known).mpr clear₂
  have expanded := (Sources.expand_eq_ok_iff_yields unified).mpr yields
  have kept : (FileSystem.diamond.view.expand "/r" ⟨"/d", "cc", "b.c"⟩).result = .ok [_] :=
    (Sources.expand_eq_ok_iff_resolved plain).mpr rfl
  have base : FileSystem.diamond.view.absolute "/r" = .ok "/r" := rfl
  have refined : (FileSystem.diamond.view.refine "/r" [⟨"/d", "cc", "UnifiedSource2.c"⟩,
      ⟨"/d", "cc", "b.c"⟩]).result = .ok ⟨_, _⟩ :=
    View.refine_eq_ok_iff.mpr ⟨rfl, "/r", base,
      Sources.expandAll_eq_ok_iff.mpr ⟨[part, [_]], .cons expanded (.cons kept .nil), rfl⟩⟩
  obtain ⟨_, found, -, length, -, -, made, -⟩ := FileSystem.refine_counts refined
  obtain rfl := Except.ok.inj (base.symm.trans found)
  have leaves : FileSystem.diamond.view.leafCountAll "/r" [⟨"/d", "cc", "UnifiedSource2.c"⟩,
      ⟨"/d", "cc", "b.c"⟩] = 2 := by
    simp [Sources.leafCountAll, unified, plain, leaves₂]
  rw [leaves] at length made
  exact ⟨_, refined, length, made⟩

end UnityBuild
