import UnityBuild.Proofs.Expansion.Graph
import UnityBuild.Proofs.FileSystem.Normal

/-!
# Expanding below a relative base

A relative base stands for a directory, and an expansion below the base should make what an
expansion below that directory makes, up to the directory in front of every file. A plain include
keeps to that. An included unified source does not always: the file of its entry holds the base
already, and it is read from the base once more. Below a relative base the second reading leads
elsewhere, unless the reference is absolute or the base is the current directory itself.

Where the second reading changes nothing, where both bases agree on what is unified, and where no
path is too long, the two expansions take the same way. The graph of the absolute base serves both:
a source that comes twice on a way below the relative base comes twice there.
-/

namespace UnityBuild

theorem Entry.file_resolved_resolve (entry : Entry) (here base : String) :
    (entry.resolved (resolve here base)).file = resolve here (entry.resolved base).file := by
  rw [Entry.resolved_file, Entry.resolved_file, resolve_eq (resolve here base),
    NormalPath.ofText_join_resolve, ← resolve_eq]

theorem Entry.file_forInclude_resolve (entry other : Entry) (here base reference : String) :
    (other.forInclude (resolve here base) reference).file =
      resolve here (entry.forInclude base reference).file :=
  file_resolved_resolve ⟨"", "", reference⟩ here base

/-- The file of an include has a base name if it is unified, so it has a path. -/
theorem Path.ne_empty_of_isUnified {path : String} (unified : Path.isUnified path = true) :
    path ≠ "" := by
  rintro rfl
  exact absurd unified (by decide)

namespace Sources

variable {sources : Sources} {here base path reference : String}

/-- A reference is read from a base as it is from the directory that the base stands for: both
agree on whether it is unified, and an entry for a unified include is read where the reference leads
to. -/
structure ReadsAlike (sources : Sources) (here base reference : String) : Prop where
  kind : Path.isUnified (resolve here (resolve base reference)) =
    Path.isUnified (resolve base reference)
  once : Path.isUnified (resolve base reference) = true →
    nestedPath base reference = resolve base reference
  same : Path.isUnified (resolve base reference) = true →
    sources.read (resolve here (resolve base reference)) = sources.read (resolve base reference)

/-- The source itself is read alike from both places, and so are all references in the sources that
can be reached from it. -/
structure Relocates (sources : Sources) (here base path : String) : Prop where
  same : sources.read (resolve here path) = sources.read path
  onward : ∀ reached,
    Relation.ReflTransGen (sources.Includes (resolve here base)) (resolve here path) reached →
      ∀ bytes, sources.read reached = .ok bytes → ∀ reference ∈ namedPaths bytes,
        sources.ReadsAlike here base reference

namespace Relocates

theorem readsAlike (relocates : sources.Relocates here base path) {bytes : Bytes}
    (read : sources.read path = .ok bytes) (named : reference ∈ namedPaths bytes) :
    sources.ReadsAlike here base reference :=
  relocates.onward _ .refl bytes (relocates.same.trans read) reference named

/-- A unified include of a source is one below the absolute base as well. -/
theorem includes (relocates : sources.Relocates here base path) {bytes : Bytes}
    (read : sources.read path = .ok bytes) (named : reference ∈ namedPaths bytes)
    (unified : Path.isUnified (resolve base reference) = true) :
    sources.Includes (resolve here base) (resolve here path)
      (resolve here (resolve base reference)) := by
  refine ⟨bytes, relocates.same.trans read, reference, named, ?_, ?_⟩
  · exact (Entry.file_resolved_resolve ⟨"", "", reference⟩ here base).symm
  · rw [(relocates.readsAlike read named).kind, unified]

theorem included (relocates : sources.Relocates here base path) {bytes : Bytes}
    (read : sources.read path = .ok bytes) (named : reference ∈ namedPaths bytes)
    (unified : Path.isUnified (resolve base reference) = true) :
    sources.Relocates here base (resolve base reference) where
  same := (relocates.readsAlike read named).same unified
  onward reached way :=
    relocates.onward reached (.head (relocates.includes read named unified) way)

end Relocates

/-- Without a chain, a source is clear if all that it includes is. -/
theorem clear_nil_iff :
    sources.Clear base [] path ↔
      sources.Readable path ∧
        ∀ included, sources.Includes base path included → sources.Clear base [] included := by
  constructor
  · intro clear
    exact ⟨(clear path .refl).1, fun included edge reached way => clear reached (.head edge way)⟩
  · rintro ⟨readable, clear⟩ reached way
    rcases Relation.ReflTransGen.cases_head way with rfl | ⟨included, edge, way⟩
    · refine ⟨readable, by simp, fun cycle => ?_⟩
      obtain ⟨included, edge, back⟩ := Relation.TransGen.head'_iff.mp cycle
      exact (clear included edge included .refl).2.2 (.tail' back edge)
    · exact clear included edge reached way

/-- The file of an entry for a unified include is read where the reference leads to. -/
theorem ReadsAlike.resolve_forInclude (alike : sources.ReadsAlike here base reference)
    (unified : Path.isUnified (resolve base reference) = true) (entry : Entry) :
    resolve base (entry.forInclude base reference).file = resolve base reference :=
  alike.once unified

/-- What succeeds below the relative base is clear below the absolute one. -/
theorem Relocates.clear_of_yields {chain : List String} {entry : Entry} {entries : List Entry}
    (relocates : sources.Relocates here base (resolve base entry.file))
    (yields : sources.Yields base chain entry entries) :
    sources.Clear (resolve here base) [] (resolve here (resolve base entry.file)) := by
  have known : sources.Known base chain entry := yields.1
  refine expansion_induction (motive := fun chain entry => ∀ entries,
    sources.Relocates here base (resolve base entry.file) →
    sources.Yields base chain entry entries →
      sources.Clear (resolve here base) [] (resolve here (resolve base entry.file)))
    (fun chain entry known ih entries relocates yields => ?_) known entries relocates yields
  obtain ⟨fresh, bytes, read, below⟩ := (exists_yields_iff known).mp ⟨entries, yields⟩
  have read' := relocates.same.trans read
  refine clear_nil_iff.mpr ⟨⟨bytes, read'⟩, (forall_includes_iff read').mpr ?_⟩
  intro reference named unified
  have path : resolve (resolve here base) reference = resolve here (resolve base reference) :=
    Entry.file_resolved_resolve ⟨"", "", reference⟩ here base
  have alike := relocates.readsAlike read named
  rw [path, alike.kind] at unified
  obtain ⟨part, contributes⟩ := below reference named unified
  have inner := alike.resolve_forInclude unified entry
  have next := ih bytes fresh read reference (List.mem_filter.mp named).1 part
  rw [inner] at next
  rw [path]
  exact next (relocates.included read named unified) contributes

/-- What is clear below the absolute base succeeds below the relative one. A source on the chain
leads to the one that is expanded, so a source that came twice would lead back to itself. -/
theorem Relocates.exists_yields_of_clear {chain : List String} {entry : Entry}
    (known : sources.Known base chain entry)
    (relocates : sources.Relocates here base (resolve base entry.file))
    (leads : ∀ earlier ∈ chain, Relation.TransGen (sources.Includes (resolve here base))
      (resolve here earlier) (resolve here (resolve base entry.file)))
    (clear : sources.Clear (resolve here base) [] (resolve here (resolve base entry.file))) :
    ∃ entries, sources.Yields base chain entry entries := by
  refine expansion_induction (motive := fun chain entry =>
    sources.Relocates here base (resolve base entry.file) →
    (∀ earlier ∈ chain, Relation.TransGen (sources.Includes (resolve here base))
      (resolve here earlier) (resolve here (resolve base entry.file))) →
    sources.Clear (resolve here base) [] (resolve here (resolve base entry.file)) →
      ∃ entries, sources.Yields base chain entry entries)
    (fun chain entry known ih relocates leads clear => ?_) known relocates leads clear
  obtain ⟨⟨bytes, read'⟩, -, acyclic⟩ := clear _ .refl
  have read := relocates.same.symm.trans read'
  have fresh : resolve base entry.file ∉ chain := fun member => acyclic (leads _ member)
  refine (exists_yields_iff known).mpr ⟨fresh, bytes, read, fun reference named unified => ?_⟩
  have edge := relocates.includes read named unified
  have inner := (relocates.readsAlike read named).resolve_forInclude unified entry
  have next := ih bytes fresh read reference (List.mem_filter.mp named).1
  rw [inner] at next
  refine next (relocates.included read named unified) (fun earlier member => ?_)
    fun reached way => clear reached (.head edge way)
  rcases List.mem_append.mp member with member | member
  · exact (leads earlier member).tail edge
  · rw [List.mem_singleton.mp member]
    exact .single edge

/-- An entry that an expansion makes below a base, and the one made below the directory that the
base stands for. -/
structure MadeAlike (here : String) (made other : Entry) : Prop where
  directory : other.directory = made.directory
  file : other.file = resolve here made.file

/-- Both expansions go through the same includes, so they make the same entries. -/
theorem Relocates.forall₂_madeAlike (absolute : Path.isAbsolute here = true)
    {chain other : List String} {entry entry' : Entry} {entries entries' : List Entry}
    (relocates : sources.Relocates here base (resolve base entry.file))
    (directory : entry'.directory = entry.directory)
    (path : resolve (resolve here base) entry'.file = resolve here (resolve base entry.file))
    (yields : sources.Yields base chain entry entries)
    (yields' : sources.Yields (resolve here base) other entry' entries') :
    List.Forall₂ (MadeAlike here) entries entries' := by
  have known : sources.Known base chain entry := yields.1
  refine expansion_induction (motive := fun chain entry => ∀ other entry' entries entries',
    sources.Relocates here base (resolve base entry.file) →
    entry'.directory = entry.directory →
    resolve (resolve here base) entry'.file = resolve here (resolve base entry.file) →
    sources.Yields base chain entry entries →
    sources.Yields (resolve here base) other entry' entries' →
      List.Forall₂ (MadeAlike here) entries entries')
    (fun chain entry known ih other entry' entries entries' relocates directory path yields
      yields' => ?_) known other entry' entries entries' relocates directory path yields yields'
  obtain ⟨fresh, bytes, read, parts, all, rfl⟩ := (yields_iff known).mp yields
  obtain ⟨-, bytes', read', parts', all', rfl⟩ := (yields_iff yields'.1).mp yields'
  rw [path, relocates.same, read] at read'
  cases read'
  refine forall₂_flatten all all' fun reference named part part' contributes contributes' => ?_
  have alike := relocates.readsAlike read named
  have file := Entry.file_forInclude_resolve entry entry' here base reference
  have kind : (entry'.forInclude (resolve here base) reference).isUnified =
      (entry.forInclude base reference).isUnified := by
    rw [Entry.isUnified_eq, file]
    exact alike.kind
  rw [Contributes, kind] at contributes'
  rw [Contributes] at contributes
  split at contributes
  · rename_i unified
    rw [if_pos unified] at contributes'
    have inner := alike.resolve_forInclude unified entry
    have path' :
        resolve (resolve here base) (entry'.forInclude (resolve here base) reference).file =
          resolve here (resolve base (entry.forInclude base reference).file) := by
      rw [resolve_forInclude_file (isAbsolute_resolve absolute base), inner]
      exact file
    exact ih bytes fresh read reference (List.mem_filter.mp named).1 _
      (entry'.forInclude (resolve here base) reference) part part'
      (inner ▸ relocates.included read named unified) directory path' contributes contributes'
  · rename_i plain
    rw [if_neg plain] at contributes'
    rw [contributes, contributes']
    exact .cons ⟨directory, file⟩ .nil

end Sources

namespace FileSystem

variable {fs : FileSystem} {here base reference : String}

/-- Reading an include from a base again changes nothing, the base and the directory that it stands
for agree on whether the include is unified, and none of its paths is too long. -/
structure Steady (here base reference : String) : Prop where
  kind : Path.isUnified (resolve here (resolve base reference)) =
    Path.isUnified (resolve base reference)
  once : Path.isUnified (resolve base reference) = true →
    nestedPath base reference = resolve base reference
  short : Path.isUnified (resolve base reference) = true →
    (resolve base reference).utf8ByteSize ≤ longestPath ∧
      (resolve here (resolve base reference)).utf8ByteSize ≤ longestPath

instance (here base reference : String) : Decidable (Steady here base reference) :=
  decidable_of_iff
    (Path.isUnified (resolve here (resolve base reference)) =
        Path.isUnified (resolve base reference) ∧
      (Path.isUnified (resolve base reference) = true →
        nestedPath base reference = resolve base reference) ∧
      (Path.isUnified (resolve base reference) = true →
        (resolve base reference).utf8ByteSize ≤ longestPath ∧
          (resolve here (resolve base reference)).utf8ByteSize ≤ longestPath))
    ⟨fun ⟨kind, once, short⟩ => ⟨kind, once, short⟩, fun ⟨kind, once, short⟩ => ⟨kind, once, short⟩⟩

/-- The file of a unified entry has a base name, so it has a path. -/
theorem resolve_ne_empty_of_isUnified {entry : Entry} (unified : entry.isUnified = true) :
    resolve base entry.file ≠ "" := by
  obtain ⟨name, named⟩ : ∃ name, Path.baseName? entry.file = some name :=
    Option.ne_none_iff_exists'.mp fun unnamed => by
      simp [Entry.isUnified_of_baseName?_eq_none unnamed] at unified
  intro empty
  have last := NormalPath.getLast?_names_ofText (Path.baseName?_join named base)
  rw [resolve_eq] at empty
  have fixed := NormalPath.ofText_text (NormalPath.isSpelled_ofText (Path.join base entry.file))
  rw [← fixed, empty] at last
  cases last

theorem read_resolve_resolve (grounded : fs.Grounded) (current : fs.currentDirectory = .ok here)
    (nonempty : resolve base reference ≠ "")
    (short : (resolve base reference).utf8ByteSize ≤ longestPath ∧
      (resolve here (resolve base reference)).utf8ByteSize ≤ longestPath) :
    fs.read (resolve here (resolve base reference)) = fs.read (resolve base reference) := by
  rw [resolve_eq base] at nonempty short ⊢
  exact grounded.read_resolve current (NormalPath.isSpelled_ofText _) nonempty short.1 short.2

theorem Steady.readsAlike (steady : Steady here base reference) (grounded : fs.Grounded)
    (current : fs.currentDirectory = .ok here) :
    fs.view.ReadsAlike here base reference where
  kind := steady.kind
  once := steady.once
  same unified :=
    read_resolve_resolve grounded current (Path.ne_empty_of_isUnified unified)
      (steady.short unified)

/-- Below a relative base, an entry expands exactly if it does below the directory that the base
stands for, and then into entries for the same directories and, read from the current directory, the
same files in the same order. Every unified source on the way has to be included by a steady
reference: an included unified source is read from the base twice. -/
theorem expand_relocated (grounded : fs.Grounded) (current : fs.currentDirectory = .ok here)
    (entry : Entry)
    (short : entry.isUnified = true → (resolve base entry.file).utf8ByteSize ≤ longestPath ∧
      (resolve here (resolve base entry.file)).utf8ByteSize ≤ longestPath)
    (steady : entry.isUnified = true → ∀ path,
      Relation.ReflTransGen (fs.view.Includes (resolve here base))
        (resolve (resolve here base) entry.file) path →
      ∀ bytes, fs.read path = .ok bytes → ∀ reference ∈ namedPaths bytes,
        Steady here base reference) :
    ((∃ entries, (fs.view.expand base entry).result = .ok entries) ↔
      ∃ entries, (fs.view.expand (resolve here base) entry).result = .ok entries) ∧
    ∀ entries others, (fs.view.expand base entry).result = .ok entries →
      (fs.view.expand (resolve here base) entry).result = .ok others →
      entries.length = others.length ∧
        List.Forall₂ (fun made other : Entry => other.directory = made.directory ∧
          other.file = resolve here made.file) entries others := by
  have absolute : Path.isAbsolute here = true := by
    obtain ⟨-, rfl⟩ := currentDirectory_eq_ok_iff.mp current
    exact NormalPath.isAbsolute_text_root _
  have path : resolve (resolve here base) entry.file = resolve here (resolve base entry.file) :=
    Entry.file_resolved_resolve entry here base
  cases unified : entry.isUnified with
  | false =>
    simp only [Sources.expand_eq_ok_iff_resolved unified]
    refine ⟨by simp, ?_⟩
    rintro _ _ rfl rfl
    exact ⟨rfl, .cons ⟨rfl, path⟩ .nil⟩
  | true =>
    have relocates : fs.view.Relocates here base (resolve base entry.file) := by
      refine ⟨read_resolve_resolve grounded current (resolve_ne_empty_of_isUnified unified)
        (short unified), fun reached way bytes read reference named => ?_⟩
      rw [← path] at way
      exact (steady unified reached way bytes read reference named).readsAlike grounded current
    simp only [Sources.expand_eq_ok_iff_yields unified]
    constructor
    · rw [Sources.exists_yields_iff_clear (isAbsolute_resolve absolute base) (.inl rfl), path]
      constructor
      · rintro ⟨entries, yields⟩
        exact relocates.clear_of_yields yields
      · exact relocates.exists_yields_of_clear (.inl rfl) (by simp)
    · intro entries others yields yields'
      have alike := relocates.forall₂_madeAlike absolute rfl path yields yields'
      exact ⟨alike.length_eq, alike.imp fun _ _ alike => ⟨alike.directory, alike.file⟩⟩

end FileSystem

/-- Two unified sources in a directory, one of which includes the other. Relative paths start at a
given location. -/
def FileSystem.paired (here : Location) : FileSystem where
  nodes :=
    [(["r"], .directory), (["r", "sub"], .directory),
      (["r", "sub", "UnifiedSource1.c"], .file (Utf8.encode "#include \"UnifiedSource2.c\"\n")),
      (["r", "sub", "UnifiedSource2.c"], .file (Utf8.encode "#include \"a.c\"\n"))]
  here := .standing here

/-- Below the directory itself both sources are found, wherever relative paths start. -/
theorem paired_expand (here : Location) :
    ∃ entries, ((FileSystem.paired here).view.expand "/r/sub"
      ⟨"/d", "cc", "UnifiedSource1.c"⟩).result = .ok entries := by
  have unified : (⟨"/d", "cc", "UnifiedSource1.c"⟩ : Entry).isUnified = true := rfl
  simp only [Sources.expand_eq_ok_iff_yields unified]
  refine Sources.exists_yields_of_named (.inl rfl) ["UnifiedSource2.c"] (by simp)
    (by with_unfolding_all rfl) ?_
  simp only [List.forall_mem_singleton]
  intro _ known
  exact Sources.exists_yields_of_plain known ["a.c"] (by with_unfolding_all decide)
    (by with_unfolding_all rfl) (by with_unfolding_all decide)

/-- Standing in the directory, the empty base finds the nested source. -/
theorem paired_relocated :
    (FileSystem.paired ["r", "sub"]).Grounded ∧
    (FileSystem.paired ["r", "sub"]).currentDirectory = .ok "/r/sub" ∧
    ∃ entries others,
      ((FileSystem.paired ["r", "sub"]).view.expand "" ⟨"/d", "cc", "UnifiedSource1.c"⟩).result =
        .ok entries ∧
      ((FileSystem.paired ["r", "sub"]).view.expand (resolve "/r/sub" "")
        ⟨"/d", "cc", "UnifiedSource1.c"⟩).result = .ok others ∧
      entries.length = others.length ∧
        List.Forall₂ (fun made other : Entry => other.directory = made.directory ∧
          other.file = resolve "/r/sub" made.file) entries others := by
  have unified : (⟨"/d", "cc", "UnifiedSource1.c"⟩ : Entry).isUnified = true := rfl
  have grounded : (FileSystem.paired ["r", "sub"]).Grounded := fun _ => by decide
  have steady : ∀ bytes ∈ (FileSystem.paired ["r", "sub"]).texts,
      ∀ reference ∈ namedPaths bytes, FileSystem.Steady "/r/sub" "" reference := by
    with_unfolding_all decide
  have short : (resolve "" "UnifiedSource1.c").utf8ByteSize ≤ longestPath ∧
      (resolve "/r/sub" (resolve "" "UnifiedSource1.c")).utf8ByteSize ≤ longestPath := by
    with_unfolding_all decide
  have current : (FileSystem.paired ["r", "sub"]).currentDirectory = .ok "/r/sub" := rfl
  obtain ⟨succeeds, alike⟩ := FileSystem.expand_relocated grounded current
    ⟨"/d", "cc", "UnifiedSource1.c"⟩ (fun _ => short)
    fun _ _ _ bytes read => steady bytes (FileSystem.mem_texts_of_read read)
  obtain ⟨others, success'⟩ : ∃ others, ((FileSystem.paired ["r", "sub"]).view.expand
      (resolve "/r/sub" "") ⟨"/d", "cc", "UnifiedSource1.c"⟩).result = .ok others := by
    have base : resolve "/r/sub" "" = "/r/sub" := by with_unfolding_all rfl
    rw [base]
    exact paired_expand ["r", "sub"]
  obtain ⟨entries, success⟩ := succeeds.mpr ⟨others, success'⟩
  exact ⟨grounded, current, entries, others, success, success',
    alike entries others success success'⟩

/-- From the directory above, the nested source is looked for below the base twice. -/
theorem paired_nested_twice :
    (FileSystem.paired ["r"]).Grounded ∧ (FileSystem.paired ["r"]).currentDirectory = .ok "/r" ∧
    (∃ entries, ((FileSystem.paired ["r"]).view.expand (resolve "/r" "sub")
      ⟨"/d", "cc", "UnifiedSource1.c"⟩).result = .ok entries) ∧
    ¬ ∃ entries, ((FileSystem.paired ["r"]).view.expand "sub"
      ⟨"/d", "cc", "UnifiedSource1.c"⟩).result = .ok entries := by
  have unified : (⟨"/d", "cc", "UnifiedSource1.c"⟩ : Entry).isUnified = true := rfl
  refine ⟨fun _ => by decide, rfl, ?_, ?_⟩
  · have base : resolve "/r" "sub" = "/r/sub" := by with_unfolding_all rfl
    rw [base]
    exact paired_expand ["r"]
  · simp only [Sources.expand_eq_ok_iff_yields unified]
    intro success
    obtain ⟨bytes, read, named⟩ := Sources.map_namedPaths_eq_ok_iff.mp
      (show ((FileSystem.paired ["r"]).view.read
        (resolve "sub" "UnifiedSource1.c")).map namedPaths = .ok ["UnifiedSource2.c"] by
          with_unfolding_all rfl)
    obtain ⟨-, bytes', read', below⟩ := (Sources.exists_yields_iff (.inl rfl)).mp success
    cases read.symm.trans read'
    obtain ⟨part, yields⟩ := below "UnifiedSource2.c" (by simp [named])
      (by with_unfolding_all decide)
    obtain ⟨-, bytes', found, -⟩ := (Sources.exists_yields_iff yields.1).mp ⟨part, yields⟩
    have missing : (FileSystem.paired ["r"]).view.read (resolve "sub"
        ((⟨"/d", "cc", "UnifiedSource1.c"⟩ : Entry).forInclude "sub" "UnifiedSource2.c").file) =
          .error (.opening .notFound) := by
      with_unfolding_all rfl
    rw [missing] at found
    cases found

end UnityBuild
