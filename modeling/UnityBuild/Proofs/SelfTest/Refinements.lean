import UnityBuild.Proofs.FileSystem.FreshRoot
import UnityBuild.Proofs.Refinement.Idempotence
import UnityBuild.Proofs.Text.Replace
import UnityBuild.SelfTest

/-!
# The refinements of the self-tests

The entries of the self-tests mention their file once in their command. The path of a root has a
slash in front and may hold anything else, mentions of unified sources included. But what takes the
place of a file is not searched again, and a nested source is looked for by its whole path, which
can begin at a slash only. So the expansions come out alike in every root.
-/

namespace UnityBuild

namespace Sources

variable {sources : Sources} {base : String}

/-- The source of a unified entry is read when the entry is expanded. -/
theorem exists_read_of_expand {entry : Entry} (unified : entry.isUnified = true)
    {entries : List Entry} (success : (sources.expand base entry).result = .ok entries) :
    ∃ bytes, sources.read (resolve base entry.file) = .ok bytes := by
  have yields := (expand_eq_ok_iff_yields unified).mp success
  obtain ⟨-, bytes, read, -⟩ := (yields_iff (.inl rfl)).mp yields
  exact ⟨bytes, read⟩

end Sources

namespace SelfTest

/-! ## Expansions in a root -/

section Expansions

variable {sources : Sources} {root : String}

/-- The command of an entry mentions its file once, with other text around it. An included file
takes that place. -/
theorem forInclude_entry {front file back : String} {letter : Char}
    (head : file.toList.head? = some letter) (before : letter ∉ front.toList)
    (behind : letter ∉ back.toList) :
    (entry (front ++ file ++ back) file).forInclude root = fun name =>
      entry (front ++ resolve root name ++ back) (resolve root name) := by
  funext name
  rw [Entry.forInclude, entry, Text.replace_append_append head before behind]
  rfl

variable (absolute : Path.isAbsolute root = true)

include absolute

theorem isUnified_resolve {name : String} (named : Path.baseName? name = some name) :
    Path.isUnified (resolve root name) = Path.isUnified name := by
  rw [Path.isUnified, Path.isUnified, Path.baseName, Path.baseName, named,
    baseName?_resolve absolute named]

theorem expand_of_plain_names {front file back : String} {letter : Char}
    (head : file.toList.head? = some letter) (before : letter ∉ front.toList)
    (behind : letter ∉ back.toList) (unified : Path.isUnified file = true) {names : List String}
    (read : (sources.read (resolve root file)).map namedPaths = .ok names)
    (plain : ∀ name ∈ names, Path.baseName? name = some name ∧ Path.isUnified name = false) :
    (sources.expand root (entry (front ++ file ++ back) file)).result =
      .ok (names.map fun name =>
        entry (front ++ resolve root name ++ back) (resolve root name)) := by
  have made : (entry (front ++ file ++ back) file).forInclude root = _ :=
    forInclude_entry head before behind
  have mentioned : (entry (front ++ file ++ back) file).isUnified = true := unified
  rw [Sources.expand_of_plain_includes absolute mentioned read, made]
  intro name member
  obtain ⟨named, plain⟩ := plain name member
  rw [made]
  exact (isUnified_resolve absolute named).trans plain

omit absolute in
theorem expand_regular :
    (sources.expand root (entry "cc a.cpp" "a.cpp")).result =
      .ok [entry "cc a.cpp" (resolve root "a.cpp")] := by
  have plain : (entry "cc a.cpp" "a.cpp").isUnified = false := by decide
  rw [Sources.expand_eq_ok_iff_resolved plain]
  rfl

/-- An entry for a plain file that is resolved already stays as it is. -/
theorem expand_resolved {command name : String}
    (plain : Path.isUnified (resolve root name) = false) :
    (sources.expand root (entry command (resolve root name))).result =
      .ok [entry command (resolve root name)] := by
  have stays : (entry command (resolve root name)).isUnified = false := plain
  rw [Sources.expand_eq_ok_iff_resolved stays, Entry.resolved, entry, resolve_resolve absolute]

theorem expand_two
    (read : (sources.read (resolve root "UnifiedSource1.cpp")).map namedPaths =
      .ok ["x.cpp", "y.cpp"]) :
    (sources.expand root (entry "cc UnifiedSource1.cpp -o out.o" "UnifiedSource1.cpp")).result =
      .ok [entry ("cc " ++ resolve root "x.cpp" ++ " -o out.o") (resolve root "x.cpp"),
        entry ("cc " ++ resolve root "y.cpp" ++ " -o out.o") (resolve root "y.cpp")] := by
  have split : "cc UnifiedSource1.cpp -o out.o" = "cc " ++ "UnifiedSource1.cpp" ++ " -o out.o" := by
    decide
  have head : "UnifiedSource1.cpp".toList.head? = some 'U' := by decide
  rw [split, expand_of_plain_names absolute head (by decide) (by decide) (by decide) read
    (by decide)]
  rfl

theorem expand_commented
    (read : (sources.read (resolve root "UnifiedSource2.cpp")).map namedPaths = .ok ["z.cpp"]) :
    (sources.expand root (entry "cc UnifiedSource2.cpp" "UnifiedSource2.cpp")).result =
      .ok [entry ("cc " ++ resolve root "z.cpp") (resolve root "z.cpp")] := by
  have split : "cc UnifiedSource2.cpp" = "cc " ++ "UnifiedSource2.cpp" ++ "" := by decide
  have head : "UnifiedSource2.cpp".toList.head? = some 'U' := by decide
  rw [split,
    expand_of_plain_names absolute head (by decide) (by decide) (by decide) read (by decide)]
  simp only [List.map_cons, List.map_nil, String.append_empty]

/-- The unified source that includes another one. In the command of the inner source its path
stands behind blanks, which hold no slash, and whatever the path of the root holds comes later. -/
theorem expand_nested
    (read : (sources.read (resolve root "UnifiedSource1.cpp")).map namedPaths =
      .ok ["UnifiedSourceHelpers.cpp", "a.cpp"])
    (readInner : (sources.read (resolve root "UnifiedSourceHelpers.cpp")).map namedPaths =
      .ok ["b.cpp"]) :
    (sources.expand root (entry "cc UnifiedSource1.cpp" "UnifiedSource1.cpp")).result =
      .ok [entry ("cc " ++ resolve root "b.cpp") (resolve root "b.cpp"),
        entry ("cc " ++ resolve root "a.cpp") (resolve root "a.cpp")] := by
  have split : "cc UnifiedSource1.cpp" = "cc " ++ "UnifiedSource1.cpp" ++ "" := by decide
  have head : "UnifiedSource1.cpp".toList.head? = some 'U' := by decide
  have slash : (resolve root "UnifiedSourceHelpers.cpp").toList.head? = some '/' :=
    beq_iff_eq.mp (isAbsolute_resolve absolute "UnifiedSourceHelpers.cpp")
  have outer : (entry "cc UnifiedSource1.cpp" "UnifiedSource1.cpp").isUnified = true := by decide
  have unified : Path.isUnified (resolve root "UnifiedSourceHelpers.cpp") = true :=
    (isUnified_resolve absolute (by decide)).trans (by decide)
  have plain : Path.isUnified (resolve root "a.cpp") = false :=
    (isUnified_resolve absolute (by decide)).trans (by decide)
  have made : (entry "cc UnifiedSource1.cpp" "UnifiedSource1.cpp").forInclude root = fun name =>
      entry ("cc " ++ resolve root name ++ "") (resolve root name) := by
    rw [split]
    exact forInclude_entry head (by decide) (by decide)
  have before : '/' ∉ "cc ".toList := by decide
  have behind : '/' ∉ "".toList := by decide
  rw [← resolve_resolve absolute "UnifiedSourceHelpers.cpp" root] at readInner
  have inner := expand_of_plain_names absolute slash before behind unified readInner (by decide)
  have kept : (sources.expand root (entry ("cc " ++ resolve root "a.cpp")
      (resolve root "a.cpp"))).result =
        .ok [entry ("cc " ++ resolve root "a.cpp") (resolve root "a.cpp")] :=
    expand_resolved absolute plain
  refine Sources.expand_of_named absolute outer read [[_], [_]] ?_
  rw [made]
  simp only [String.append_empty] at inner ⊢
  exact .cons inner (.cons kept .nil)

end Expansions

/-! ## Checks -/

section Checks

variable {view : View} {root : String} {entries found expected : List Entry} {finding : String}

theorem result_refined :
    (refined view root entries).result =
      (view.refine root entries).result.map Refined.entries :=
  Outcome.result_map Refined.entries (view.refine root entries)

theorem refined_eq_ok_iff :
    (refined view root entries).result = .ok found ↔
      ∃ refinement, (view.refine root entries).result = .ok refinement ∧
        refinement.entries = found := by
  rw [refined, Outcome.result_bind_eq_ok_iff]
  simp only [Outcome.result_pure, Except.ok.injEq]

theorem result_ensure_eq_ok_iff {condition : Bool} :
    (ensure condition finding).result = .ok () ↔ condition = true := by
  cases condition <;> simp [ensure]

theorem expect_eq_ok_iff :
    (expect view root entries expected).result = .ok () ↔
      (refined view root entries).result = .ok expected := by
  simp only [expect, Outcome.result_bind_eq_ok_iff, result_ensure_eq_ok_iff, beq_iff_eq]
  exact exists_eq_right

theorem expectFailure_eq_ok_iff :
    (expectFailure view root entries finding).result = .ok () ↔
      ∀ found, (refined view root entries).result ≠ .ok found := by
  simp only [ne_eq, refined_eq_ok_iff, expectFailure]
  cases (view.refine root entries).result <;> simp

/-- Where all files have base names, what a refinement comes to is plain and absolute, and it stays
as it is when it is refined again. -/
theorem final_of_refined {fs : FileSystem}
    (named : ∀ entry ∈ entries, Path.baseName? entry.file ≠ none)
    (success : (refined fs.view root entries).result = .ok found) :
    (refined fs.view root found).result = .ok found ∧
      ∀ made ∈ found, made.isUnified = false ∧ Path.isAbsolute made.file = true := by
  obtain ⟨refinement, once, rfl⟩ := refined_eq_ok_iff.mp success
  obtain ⟨directory, base, leads, all⟩ := View.refine_eq_ok_iff.mp once
  have absolute := FileSystem.isAbsolute_of_absolute leads
  have plain := (Sources.refined_plain_iff absolute all).mpr fun entry member disguised =>
    named entry member disguised.1
  have resolved := Sources.resolved_of_mem_refined absolute all
  refine ⟨?_, fun made member => ⟨plain made member, ?_⟩⟩
  · rw [result_refined, View.refine_of_base directory leads]
    exact Sources.expandAll_of_plain plain resolved
  · have fixed : resolve base made.file = made.file := congrArg Entry.file (resolved made member)
    rw [← fixed]
    exact isAbsolute_resolve absolute made.file

end Checks

/-! ## Roots -/

section Roots

variable {fs : FileSystem} {names : Location} {texts : List (String × String)}
  (spelled : (⟨.root, names⟩ : NormalPath).IsSpelled)

include spelled

theorem absolute_text : fs.view.absolute (Location.text names) = .ok (Location.text names) := by
  rw [View.absolute, absolutePath.eq_def, if_pos (Location.isAbsolute_text names),
    Location.text_eq, NormalPath.ofText_text spelled]

/-- A refinement in the root refines its entries one by one. -/
theorem refined_of_forall₂ (holds : fs.Holds names texts) {entries : List Entry}
    {parts : List (List Entry)}
    (all : List.Forall₂ (fun entry part =>
      (fs.view.expand (Location.text names) entry).result = .ok part) entries parts) :
    (refined fs.view (Location.text names) entries).result = .ok parts.flatten :=
  refined_eq_ok_iff.mpr ⟨_, View.refine_eq_ok_iff.mpr ⟨holds.isDirectory, _,
    absolute_text spelled, Sources.expandAll_eq_ok_iff.mpr ⟨parts, all, rfl⟩⟩, rfl⟩

theorem exists_expand_of_refined {entries found : List Entry}
    (success : (refined fs.view (Location.text names) entries).result = .ok found) {entry : Entry}
    (member : entry ∈ entries) :
    ∃ part, (fs.view.expand (Location.text names) entry).result = .ok part := by
  obtain ⟨refinement, success, -⟩ := refined_eq_ok_iff.mp success
  obtain ⟨-, base, absolute, success⟩ := View.refine_eq_ok_iff.mp success
  obtain rfl : Location.text names = base :=
    Except.ok.inj ((absolute_text spelled).symm.trans absolute)
  obtain ⟨parts, all, -⟩ := Sources.expandAll_eq_ok_iff.mp success
  obtain ⟨part, expanded, -⟩ := exists_part_of_mem all member
  exact ⟨part, expanded⟩

variable {name : String} (entryName : FileSystem.IsEntryName name)

include entryName

theorem resolve_eq_pathIn :
    resolve (Location.text names) name = pathIn (Location.text names) name := by
  rw [Location.resolve_text spelled entryName.slashless entryName.isName, pathIn,
    Location.join_text spelled entryName.slashless]

theorem read_resolve (holds : fs.Holds names texts)
    (short : (pathIn (Location.text names) name).utf8ByteSize ≤ longestPath) {text : String}
    (held : texts.lookup name = some text) {references : List String}
    (named : namedPaths (Utf8.encode text) = references) :
    (fs.view.read (resolve (Location.text names) name)).map namedPaths = .ok references := by
  have read : fs.read (pathIn (Location.text names) name) = .ok (Utf8.encode text) := by
    rw [pathIn, holds.read_join entryName short, held]
  rw [resolve_eq_pathIn spelled entryName]
  show (fs.read _).map namedPaths = _
  rw [read, ← named]
  rfl

/-- What was not put into the root cannot be read there, however long its path is. -/
theorem exists_read_eq_error (holds : fs.Holds names texts) (missing : texts.lookup name = none) :
    ∃ failure, fs.view.read (resolve (Location.text names) name) = .error failure := by
  rw [resolve_eq_pathIn spelled entryName]
  by_cases short : (pathIn (Location.text names) name).utf8ByteSize ≤ longestPath
  · have read := holds.read_join entryName short
    rw [missing] at read
    exact ⟨_, read⟩
  · exact ⟨_, FileSystem.read_of_long (holds.stands.nulless_join entryName)
      (Nat.not_le.mp short) fs⟩

end Roots

end SelfTest

end UnityBuild
