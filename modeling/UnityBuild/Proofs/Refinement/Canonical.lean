import UnityBuild.Proofs.Refinement.Survivors

/-!
# The form of refined paths

A path is canonical when it is a slash, or a slash and names with one slash between any two of them.
No base can change a canonical path. A refinement resolves every file against an absolute base,
whether the file stays, is included, or is included by a source that was included, so the paths that
it writes are canonical.
-/

namespace UnityBuild

namespace Path

/-- A slash, and names below the root with one slash between any two. -/
def IsCanonical (path : String) : Prop :=
  ∃ names : List String, path = "/" ++ "/".intercalate names ∧
    ∀ name ∈ names, name ≠ "" ∧ name ≠ "." ∧ name ≠ ".." ∧ '/' ∉ name.toList

theorem isName_iff {piece : String} :
    isName piece = true ↔ piece ≠ "" ∧ piece ≠ "." ∧ piece ≠ ".." := by
  simp [isName, isIdle, and_assoc]

/-- The canonical paths are the texts of normal paths that start at the root. -/
theorem isCanonical_iff_exists_text {path : String} :
    IsCanonical path ↔ ∃ names, (⟨.root, names⟩ : NormalPath).IsSpelled ∧
      path = NormalPath.text ⟨.root, names⟩ := by
  constructor
  · rintro ⟨names, rfl, plain⟩
    refine ⟨names, ?_, rfl⟩
    intro name member
    obtain ⟨filled, dot, dots, slashless⟩ := plain name member
    exact ⟨isName_iff.mpr ⟨filled, dot, dots⟩, slashless⟩
  · rintro ⟨names, spelled, rfl⟩
    refine ⟨names, rfl, ?_⟩
    intro name member
    obtain ⟨named, slashless⟩ := spelled name member
    obtain ⟨filled, dot, dots⟩ := isName_iff.mp named
    exact ⟨filled, dot, dots, slashless⟩

/-- An absolute base makes every reference canonical, however many idle pieces and steps up it has.
Steps up that reach the root stay there. -/
theorem isCanonical_resolve {base : String} (absolute : isAbsolute base = true)
    (reference : String) : IsCanonical (resolve base reference) := by
  obtain ⟨names, -, spelled, resolved⟩ := exists_resolve_eq_text absolute reference
  exact isCanonical_iff_exists_text.mpr ⟨names, spelled, resolved⟩

/-- A canonical path is what every base resolves it to, because it is absolute and spells its own
normal form. -/
theorem IsCanonical.resolve_eq {path : String} (canonical : IsCanonical path) (base : String) :
    resolve base path = path := by
  obtain ⟨names, spelled, rfl⟩ := isCanonical_iff_exists_text.mp canonical
  rw [resolve_of_isAbsolute (NormalPath.isAbsolute_text_root names), NormalPath.ofText_text spelled]

end Path

/-- Every file of a refined database has a canonical path, and so is what any base resolves it to.
-/
theorem FileSystem.isCanonical_of_mem_refined {fs : FileSystem} {root : String}
    {entries : List Entry} {refined : Refined}
    (h : (fs.view.refine root entries).result = .ok refined) :
    ∀ made ∈ refined.entries,
      Path.IsCanonical made.file ∧ ∀ base, resolve base made.file = made.file := by
  obtain ⟨-, base, found, all⟩ := View.refine_eq_ok_iff.mp h
  have absolute := isAbsolute_of_absolute found
  intro made member
  have resolved := Sources.resolved_of_mem_refined absolute all made member
  have fixed : resolve base made.file = made.file := congrArg Entry.file resolved
  have canonical : Path.IsCanonical made.file := by
    rw [← fixed]
    exact Path.isCanonical_resolve absolute made.file
  exact ⟨canonical, canonical.resolve_eq⟩

/-- A unified source includes another one, which includes a file by a path with needless parts. -/
def FileSystem.crooked : FileSystem where
  nodes :=
    [(["r"], .directory),
      (["r", "UnifiedSource1.c"], .file (Utf8.encode "#include \"x/../UnifiedSource2.c\"\n")),
      (["r", "UnifiedSource2.c"], .file (Utf8.encode "#include \"//x//./../../y/b.c/.\"\n"))]
  here := .standing ["r"]

/-- A file that stays and one that is included by an included source, both below a relative root. -/
theorem crooked_refine :
    (FileSystem.crooked.view.refine "." [⟨"/d", "cc", "./UnifiedSource1.c"⟩,
        ⟨"/d", "cc", "..//../../a/.././c.c/"⟩]).result =
      .ok ⟨[⟨"/d", "cc", "/y/b.c"⟩, ⟨"/d", "cc", "/c.c"⟩], ⟨2, 1, 1, 1⟩⟩ := by
  have absolute : Path.isAbsolute "/r" = true := rfl
  have outer : (⟨"/d", "cc", "./UnifiedSource1.c"⟩ : Entry).isUnified = true := rfl
  have inner : (⟨"/d", "cc", "/r/UnifiedSource2.c"⟩ : Entry).isUnified = true := rfl
  have plain : (⟨"/d", "cc", "/y/b.c"⟩ : Entry).isUnified = false := rfl
  have first : (⟨"/d", "cc", "./UnifiedSource1.c"⟩ : Entry).forInclude "/r"
      "x/../UnifiedSource2.c" = ⟨"/d", "cc", "/r/UnifiedSource2.c"⟩ := by with_unfolding_all rfl
  have second : (⟨"/d", "cc", "/r/UnifiedSource2.c"⟩ : Entry).forInclude "/r"
      "//x//./../../y/b.c/." = ⟨"/d", "cc", "/y/b.c"⟩ := by with_unfolding_all rfl
  have stays : (⟨"/d", "cc", "..//../../a/.././c.c/"⟩ : Entry).resolved "/r" =
      ⟨"/d", "cc", "/c.c"⟩ := by with_unfolding_all rfl
  have path₁ : resolve "/r" "./UnifiedSource1.c" = "/r/UnifiedSource1.c" := by
    with_unfolding_all rfl
  have path₂ : resolve "/r" "/r/UnifiedSource2.c" = "/r/UnifiedSource2.c" := by
    with_unfolding_all rfl
  have named₁ : (FileSystem.crooked.view.read (resolve "/r" "./UnifiedSource1.c")).map namedPaths =
      .ok ["x/../UnifiedSource2.c"] := by
    rw [path₁]
    rfl
  have named₂ : (FileSystem.crooked.view.read (resolve "/r" "/r/UnifiedSource2.c")).map namedPaths =
      .ok ["//x//./../../y/b.c/."] := by
    rw [path₂]
    rfl
  have nested : (FileSystem.crooked.view.expand "/r" ⟨"/d", "cc", "/r/UnifiedSource2.c"⟩).result =
      .ok [⟨"/d", "cc", "/y/b.c"⟩] := by
    have yields := Sources.expand_of_plain_includes absolute inner named₂
      (by simpa [second] using plain)
    rwa [List.map_singleton, second] at yields
  have expanded : (FileSystem.crooked.view.expand "/r" ⟨"/d", "cc", "./UnifiedSource1.c"⟩).result =
      .ok [⟨"/d", "cc", "/y/b.c"⟩] := by
    refine Sources.expand_of_named absolute outer named₁ [[⟨"/d", "cc", "/y/b.c"⟩]] ?_
    rw [List.forall₂_cons, first]
    exact ⟨nested, .nil⟩
  have kept : (FileSystem.crooked.view.expand "/r" ⟨"/d", "cc", "..//../../a/.././c.c/"⟩).result =
      .ok [⟨"/d", "cc", "/c.c"⟩] := by
    rw [Sources.expand_eq_ok_iff_resolved rfl, stays]
  refine View.refine_eq_ok_iff.mpr ⟨rfl, "/r", by with_unfolding_all rfl, ?_⟩
  exact Sources.expandAll_eq_ok_iff.mpr ⟨_, .cons expanded (.cons kept .nil), rfl⟩

/-- The file that comes through two sources and the one that stays have canonical paths in the end,
although neither reference to them is canonical. -/
theorem crooked_canonical :
    ∃ refined, (FileSystem.crooked.view.refine "." [⟨"/d", "cc", "./UnifiedSource1.c"⟩,
        ⟨"/d", "cc", "..//../../a/.././c.c/"⟩]).result = .ok refined ∧
      ⟨"/d", "cc", "/y/b.c"⟩ ∈ refined.entries ∧ Path.IsCanonical "/y/b.c" ∧
      ⟨"/d", "cc", "/c.c"⟩ ∈ refined.entries ∧ resolve "sub" "/c.c" = "/c.c" := by
  have canonical := FileSystem.isCanonical_of_mem_refined crooked_refine
  have included := (canonical ⟨"/d", "cc", "/y/b.c"⟩ (.head _)).1
  have kept := (canonical ⟨"/d", "cc", "/c.c"⟩ (.tail _ (.head _))).2 "sub"
  exact ⟨_, crooked_refine, .head _, included, .tail _ (.head _), kept⟩

end UnityBuild
