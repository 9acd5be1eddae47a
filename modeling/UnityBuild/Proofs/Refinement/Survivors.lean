import UnityBuild.Proofs.Expansion.InPlace
import UnityBuild.Proofs.Refinement.Entrywise

/-!
# Unified entries that survive a refinement

An expansion makes plain entries only, whatever its chain and depth are. An entry that stays is
classified before its file is resolved, so it is plain as it was given. Resolving keeps a base name,
and so a unified entry survives a refinement exactly where a disguised one was given: it has no base
name, and the path it resolves to has the base name of a unified source.
-/

namespace UnityBuild

namespace Sources

variable {sources : Sources} {base : String}

/-- The files of all entries that an expansion makes or keeps are resolved. -/
theorem resolved_of_mem_expand (absolute : Path.isAbsolute base = true) {entry : Entry}
    {part : List Entry} (h : (sources.expand base entry).result = .ok part) :
    ∀ made ∈ part, made.resolved base = made := by
  cases unified : entry.isUnified with
  | true =>
    exact forall_mem_of_yields (motive := fun _ made => made.resolved base = made)
      (fun entry reference _ => resolved_forInclude absolute entry reference)
      (fun _ _ _ fixed => fixed) ((expand_eq_ok_iff_yields unified).mp h)
  | false =>
    rw [(expand_eq_ok_iff_resolved unified).mp h, List.forall_mem_singleton]
    simp [Entry.resolved, resolve_resolve absolute]

/-- An expansion makes no unified entry, at any depth. Whatever is unified is expanded in its place,
and only plain files are left. -/
theorem plain_of_yields {chain : List String} {entry : Entry} {entries : List Entry}
    (h : sources.Yields base chain entry entries) : ∀ made ∈ entries, made.isUnified = false :=
  forall_mem_of_yields (motive := fun _ made => made.isUnified = false)
    (fun _ _ plain => plain) (fun _ _ _ plain => plain) h

/-- What an entry becomes is plain unless the entry is disguised. A disguised entry is passed on,
and its file then shows that it is unified. -/
theorem forall_plain_iff_not_isDisguised (absolute : Path.isAbsolute base = true) {entry : Entry}
    {part : List Entry} (h : (sources.expand base entry).result = .ok part) :
    (∀ made ∈ part, made.isUnified = false) ↔ ¬ entry.IsDisguised base := by
  have changes := Entry.isUnified_resolve_eq_true_iff absolute entry
  cases unified : entry.isUnified with
  | true =>
    have named : ¬ entry.IsDisguised base := fun disguised => by
      rw [Entry.isUnified_of_baseName?_eq_none disguised.1] at unified
      cases unified
    exact iff_of_true (plain_of_yields ((expand_eq_ok_iff_yields unified).mp h)) named
  | false =>
    rw [(expand_eq_ok_iff_resolved unified).mp h, List.forall_mem_singleton, Entry.isUnified_eq,
      Entry.resolved_file, ← Bool.not_eq_true, changes]
    simp [unified]

/-- The refined database is plain exactly when no given entry is disguised. -/
theorem refined_plain_iff (absolute : Path.isAbsolute base = true) {entries : List Entry}
    {refined : Refined} (h : (sources.expandAll base entries).result = .ok refined) :
    (∀ made ∈ refined.entries, made.isUnified = false) ↔
      ∀ entry ∈ entries, ¬ entry.IsDisguised base := by
  obtain ⟨parts, all, rfl⟩ := expandAll_eq_ok_iff.mp h
  exact forall_mem_flatten_iff all fun entry _ part expanded =>
    forall_plain_iff_not_isDisguised absolute expanded

/-- All files of the refined database are resolved, those that stay as well as those that are
included by a source at any depth. -/
theorem resolved_of_mem_refined (absolute : Path.isAbsolute base = true) {entries : List Entry}
    {refined : Refined} (h : (sources.expandAll base entries).result = .ok refined) :
    ∀ made ∈ refined.entries, made.resolved base = made := by
  obtain ⟨parts, all, rfl⟩ := expandAll_eq_ok_iff.mp h
  intro made member
  obtain ⟨entry, -, part, expanded, inside⟩ := exists_mem_of_mem_flatten all member
  exact resolved_of_mem_expand absolute expanded made inside

end Sources

/-- A refinement that succeeds leaves no unified entry exactly when none of the given entries is
disguised below its base. -/
theorem FileSystem.no_unified_survivor_iff {fs : FileSystem} {root : String} {entries : List Entry}
    {refined : Refined} (h : (fs.view.refine root entries).result = .ok refined) :
    ∃ base, fs.view.absolute root = .ok base ∧
      ((∀ made ∈ refined.entries, made.isUnified = false) ↔
        ∀ entry ∈ entries, ¬ entry.IsDisguised base) := by
  obtain ⟨-, base, found, all⟩ := View.refine_eq_ok_iff.mp h
  exact ⟨base, found, Sources.refined_plain_iff (isAbsolute_of_absolute found) all⟩

/-- A unified entry whose source includes one plain file is replaced by the entry of that file. -/
theorem View.refine_of_one_include {view : View} {root base reference : String} {entry : Entry}
    (unified : entry.isUnified = true) (directory : view.isDirectory root = true)
    (found : view.absolute root = .ok base) (absolute : Path.isAbsolute base = true)
    (read : (view.read (resolve base entry.file)).map namedPaths = .ok [reference])
    (plain : (entry.forInclude base reference).isUnified = false) :
    (view.refine root [entry]).result =
      .ok ⟨[entry.forInclude base reference], ⟨1, 1, 0, 1⟩⟩ := by
  have expanded : (view.expand base entry).result = .ok [entry.forInclude base reference] :=
    Sources.expand_of_plain_includes absolute unified read (by simpa using plain)
  refine View.refine_eq_ok_iff.mpr ⟨directory, base, found, ?_⟩
  refine Sources.expandAll_eq_ok_iff.mpr ⟨[[_]], .cons expanded .nil, ?_⟩
  rw [Summary.total_cons, Summary.ofEntry, if_pos unified]
  rfl

/-- One directory with a unified source that includes one file. -/
def FileSystem.oneInclude : FileSystem where
  nodes :=
    [(["r"], .directory),
      (["r", "UnifiedSource1.c"], .file (Utf8.encode "#include \"a.c\"\n"))]
  here := .root

theorem oneInclude_absolute : FileSystem.oneInclude.view.absolute "/r" = .ok "/r" := rfl

/-- Both written forms of the unified source's path lead to the file that it includes. -/
theorem oneInclude_refine {file : String} (unified : (⟨"/d", "cc", file⟩ : Entry).isUnified = true)
    (found : resolve "/r" file = "/r/UnifiedSource1.c")
    (replaced : (⟨"/d", "cc", file⟩ : Entry).forInclude "/r" "a.c" = ⟨"/d", "cc", "/r/a.c"⟩) :
    (FileSystem.oneInclude.view.refine "/r" [⟨"/d", "cc", file⟩]).result =
      .ok ⟨[⟨"/d", "cc", "/r/a.c"⟩], ⟨1, 1, 0, 1⟩⟩ := by
  have directory : FileSystem.oneInclude.view.isDirectory "/r" = true := rfl
  have read : (FileSystem.oneInclude.view.read (resolve "/r" file)).map namedPaths =
      .ok ["a.c"] := by
    rw [found]
    rfl
  have plain : ((⟨"/d", "cc", file⟩ : Entry).forInclude "/r" "a.c").isUnified = false := by
    rw [replaced]
    decide
  rw [View.refine_of_one_include unified directory oneInclude_absolute (by decide) read plain,
    replaced]

/-- An entry for the unified source is replaced, and nothing unified is left. -/
theorem oneInclude_no_survivor :
    (FileSystem.oneInclude.view.refine "/r" [⟨"/d", "cc", "UnifiedSource1.c"⟩]).result =
        .ok ⟨[⟨"/d", "cc", "/r/a.c"⟩], ⟨1, 1, 0, 1⟩⟩ ∧
      ∀ made ∈ [(⟨"/d", "cc", "/r/a.c"⟩ : Entry)], made.isUnified = false := by
  have refined := oneInclude_refine (by decide +kernel)
    (by decide +kernel : resolve "/r" "UnifiedSource1.c" = "/r/UnifiedSource1.c")
    (by decide +kernel)
  obtain ⟨base, found, survivors⟩ := FileSystem.no_unified_survivor_iff refined
  obtain rfl : "/r" = base := Except.ok.inj (oneInclude_absolute.symm.trans found)
  refine ⟨refined, survivors.mpr ?_⟩
  rw [List.forall_mem_singleton]
  decide +kernel

/-- An entry without a base name stays, and its file resolves to the unified source. -/
theorem disguised_survives :
    ∃ refined, (FileSystem.oneInclude.view.refine "/r"
        [⟨"/d", "cc", "UnifiedSource1.c/x/.."⟩]).result = .ok refined ∧
      ∃ made ∈ refined.entries, made.isUnified = true :=
  ⟨⟨[⟨"/d", "cc", "/r/UnifiedSource1.c"⟩], ⟨1, 0, 1, 0⟩⟩, by decide +kernel⟩

end UnityBuild
