import UnityBuild.Proofs.Expansion.Stack
import UnityBuild.Proofs.Refinement.Composition

/-!
# What a refinement reads

A refinement asks whether its root is a directory, from where a relative root is read, and what the
texts are of the unified sources that can be reached from those of the list. These sources are its
footprint. A run of an expansion goes through no others, so it is a run over any sources that read
the same on the footprint, step by step and with the same lines.

Which sources are reached depends on the texts that are read. The footprint is taken in one file
system, and is the same in another one that agrees with it there.
-/

namespace UnityBuild

namespace Sources

variable {sources other : Sources} {base path start : String}

/-- The sources that can be reached from the unified sources of a list. A refinement reads no
others, and perhaps not even all of these if it fails. -/
def Footprint (sources : Sources) (base : String) (entries : List Entry) (path : String) : Prop :=
  ∃ entry ∈ entries, entry.isUnified = true ∧
    Relation.ReflTransGen (sources.Includes base) (resolve base entry.file) path

/-- Reading gives the same text, or fails for the same reason. Whether a file failed to be opened or
to be read makes no difference to an expansion. -/
def ReadsSame (sources other : Sources) (path : String) : Prop :=
  (sources.read path).mapError ReadFailure.reason = (other.read path).mapError ReadFailure.reason

/-- Every source that can be reached is read the same. -/
def ReadsSameFrom (sources other : Sources) (base start : String) : Prop :=
  ∀ path, Relation.ReflTransGen (sources.Includes base) start path → sources.ReadsSame other path

theorem ReadsSame.of_ok {bytes : Bytes} (same : sources.ReadsSame other path)
    (read : sources.read path = .ok bytes) : other.read path = .ok bytes := by
  rw [ReadsSame, read] at same
  cases read' : other.read path with
  | error failure =>
    rw [read'] at same
    cases same
  | ok bytes' =>
    rw [read'] at same
    cases same
    rfl

theorem ReadsSame.of_error {failure : ReadFailure} (same : sources.ReadsSame other path)
    (read : sources.read path = .error failure) :
    ∃ failure', other.read path = .error failure' ∧ failure'.reason = failure.reason := by
  rw [ReadsSame, read] at same
  cases read' : other.read path with
  | error failure' =>
    rw [read'] at same
    exact ⟨failure', rfl, (Except.error.inj same).symm⟩
  | ok bytes =>
    rw [read'] at same
    cases same

theorem ReadsSameFrom.here (same : sources.ReadsSameFrom other base start) :
    sources.ReadsSame other start :=
  same start .refl

theorem ReadsSameFrom.below (same : sources.ReadsSameFrom other base start)
    (edge : sources.Includes base start path) : sources.ReadsSameFrom other base path :=
  fun reached way => same reached (.head edge way)

/-- What a call can come to read is read the same. -/
def Task.ReadsSame (sources other : Sources) (base : String) : Task → Prop
  | .entry source => source.isUnified = true →
      sources.ReadsSameFrom other base (resolve base source.file)
  | .includes _ _ included => ∀ reference ∈ included, reference.isEmpty = false →
      Path.isUnified (resolve base reference) = true →
        sources.ReadsSameFrom other base (resolve base reference)

theorem ReadsSameFrom.includes {bytes : Bytes} (same : sources.ReadsSameFrom other base path)
    (read : sources.read path = .ok bytes) (entry : Entry) :
    (Task.includes path entry (includedPaths bytes)).ReadsSame sources other base := by
  intro reference member named unified
  have edge : sources.Includes base path (resolve base reference) :=
    ⟨bytes, read, reference, mem_namedPaths_iff.mpr ⟨member, named⟩, rfl, unified⟩
  exact same.below edge

section Loop

variable {first : String} {rest : List String} {entry : Entry}

theorem Task.ReadsSame.tail
    (same : (Task.includes path entry (first :: rest)).ReadsSame sources other base) :
    (Task.includes path entry rest).ReadsSame sources other base :=
  fun reference member => same reference (.tail _ member)

/-- The entry for an include is read at the path that the include stands for. -/
theorem Task.ReadsSame.head (absolute : Path.isAbsolute base = true)
    (same : (Task.includes path entry (first :: rest)).ReadsSame sources other base)
    (named : first.isEmpty = false) :
    (Task.entry (entry.forInclude base first)).ReadsSame sources other base := by
  intro unified
  rw [resolve_forInclude_file absolute]
  exact same first (.head _) named unified

end Loop

/-- A run is a run over all sources that read the same where it reads. -/
theorem Runs.transfer (absolute : Path.isAbsolute base = true) {call : Call} {below : List Call}
    (run : sources.Runs base call below) (same : call.task.ReadsSame sources other base) :
    other.Runs base call below := by
  -- The rules ask for nothing of the sources but a reading at the path that an entry is read at.
  induction run with
  | stays plain => exact .stays plain
  | cycle unified member => exact .cycle unified member
  | unread unified fresh read =>
    obtain ⟨failure, read', reason⟩ := (same unified).here.of_error read
    rw [← reason]
    exact .unread unified fresh read'
  | popped unified fresh read asks _ success ih =>
    have onward := (same unified).includes read
    refine .popped unified fresh ((same unified).here.of_ok read) asks (ih ?_) success
    rw [asks.2]
    exact onward _
  | broken unified fresh read asks _ failed ih =>
    have onward := (same unified).includes read
    refine .broken unified fresh ((same unified).here.of_ok read) asks (ih ?_) failed
    rw [asks.2]
    exact onward _
  | done => exact .done
  | skipped empty asks _ ih =>
    refine .skipped empty asks (ih ?_)
    rw [asks.2]
    exact same.tail
  | added named plain asks _ ih =>
    refine .added named plain asks (ih ?_)
    rw [asks.2]
    exact same.tail
  | called named unified asks _ success asks' _ ih ih' =>
    refine .called named unified asks (ih ?_) success asks' (ih' ?_)
    · rw [asks.2]
      exact same.head absolute named
    · rw [asks'.2]
      exact same.tail
  | failed named unified asks _ failed ih =>
    refine .failed named unified asks (ih ?_) failed
    rw [asks.2]
    exact same.head absolute named

/-- An expansion depends on the sources that can be reached. Other sources may be read differently,
or not at all, without a change of any entry or line. -/
theorem expand_congr (absolute : Path.isAbsolute base = true) {entry : Entry}
    (same : (Task.entry entry).ReadsSame sources other base) :
    sources.expand base entry = other.expand base entry := by
  obtain ⟨call, below, asks, run⟩ := exists_runs (.inl rfl)
  have run' : other.Runs base call below := run.transfer absolute (by rwa [asks.2])
  rw [← run.outcome_eq_expand asks, run'.outcome_eq_expand asks]

theorem expandAll_congr (absolute : Path.isAbsolute base = true) {entries : List Entry}
    (same : ∀ path, sources.Footprint base entries path → sources.ReadsSame other path) :
    sources.expandAll base entries = other.expandAll base entries := by
  induction entries with
  | nil => rfl
  | cons entry rest ih =>
    have first : sources.expand base entry = other.expand base entry :=
      expand_congr absolute fun unified path way => same path ⟨entry, .head _, unified, way⟩
    have others : sources.expandAll base rest = other.expandAll base rest :=
      ih fun path ⟨inner, member, reached⟩ => same path ⟨inner, .tail _ member, reached⟩
    rw [expandAll, expandAll, first, others]

/-- Nothing but unified sources is in a footprint. -/
theorem Footprint.isUnified (absolute : Path.isAbsolute base = true) {entries : List Entry}
    (inside : sources.Footprint base entries path) : Path.isUnified path = true := by
  obtain ⟨entry, -, unified, way⟩ := inside
  rcases Relation.ReflTransGen.cases_tail way with rfl | ⟨_, -, _, -, _, -, -, unified'⟩
  · exact (Entry.isUnified_resolve_eq_true_iff absolute entry).mpr (.inl unified)
  · exact unified'

end Sources

/-- A refinement depends on its root and on what the list expands into from there. -/
theorem View.refine_congr {view other : View} {root : String} {entries : List Entry}
    (directory : view.isDirectory root = other.isDirectory root)
    (same : view.absolute root = other.absolute root)
    (all : ∀ base, view.absolute root = .ok base →
      view.expandAll base entries = other.expandAll base entries) :
    view.refine root entries = other.refine root entries := by
  rw [refine, refine, ← directory, ← same]
  cases found : view.absolute root with
  | error failure => rfl
  | ok base =>
    have ready : Outcome.ofExcept (.ok base : Except Failure String) = pure base := rfl
    rw [ready, pure_bind, pure_bind, all base found]

/-- A refinement reads what it must. In two file systems that agree on the root, on where relative
paths start and on the footprint, it comes to the same entries, summary, failure and lines. All that
is in the footprint is unified, so no other file has to exist or makes a difference. -/
theorem FileSystem.refine_eq_of_footprint {fs other : FileSystem} {root : String}
    {entries : List Entry} (directory : fs.isDirectory root = other.isDirectory root)
    (here : fs.currentDirectory = other.currentDirectory)
    (reads : ∀ base path, fs.view.absolute root = .ok base →
      fs.view.Footprint base entries path → fs.view.ReadsSame other.view.toSources path) :
    fs.view.refine root entries = other.view.refine root entries ∧
      ∀ base path, fs.view.absolute root = .ok base → fs.view.Footprint base entries path →
        Path.isUnified path = true := by
  refine ⟨?_, fun base path found inside => inside.isUnified (isAbsolute_of_absolute found)⟩
  refine View.refine_congr directory (congrArg (absolutePath · root) here) fun base found => ?_
  exact Sources.expandAll_congr (isAbsolute_of_absolute found) fun path => reads base path found

/-- The file system with one include, in which the included file exists and another unified source
stands beside the first one. -/
def FileSystem.populated : FileSystem where
  nodes :=
    [(["r"], .directory),
      (["r", "a.c"], .file (Utf8.encode "int a;\n")),
      (["r", "UnifiedSource1.c"], .file (Utf8.encode "#include \"a.c\"\n")),
      (["r", "UnifiedSource2.c"], .file (Utf8.encode "#include \"b.c\"\n"))]
  here := .root

/-- Both files are read differently, and neither has any influence: one is plain, and no include
leads to the other. -/
theorem populated_refine :
    FileSystem.oneInclude.read "/r/a.c" ≠ FileSystem.populated.read "/r/a.c" ∧
      FileSystem.oneInclude.read "/r/UnifiedSource2.c" ≠
        FileSystem.populated.read "/r/UnifiedSource2.c" ∧
      FileSystem.oneInclude.view.refine "/r" [⟨"/d", "cc", "UnifiedSource1.c"⟩] =
        FileSystem.populated.view.refine "/r" [⟨"/d", "cc", "UnifiedSource1.c"⟩] := by
  have directory : FileSystem.oneInclude.isDirectory "/r" = FileSystem.populated.isDirectory "/r" :=
    rfl
  have here : FileSystem.oneInclude.currentDirectory = FileSystem.populated.currentDirectory := rfl
  refine ⟨by decide, by decide, (FileSystem.refine_eq_of_footprint directory here ?_).1⟩
  rintro base path found ⟨entry, member, -, way⟩
  obtain rfl : "/r" = base := Except.ok.inj (oneInclude_absolute.symm.trans found)
  obtain rfl := List.mem_singleton.mp member
  have source : resolve "/r" "UnifiedSource1.c" = "/r/UnifiedSource1.c" := by
    with_unfolding_all rfl
  obtain ⟨bytes, read, named⟩ := Sources.map_namedPaths_eq_ok_iff.mp
    (show (FileSystem.oneInclude.view.read "/r/UnifiedSource1.c").map namedPaths =
      .ok ["a.c"] by rfl)
  have leaf : ∀ included, ¬ FileSystem.oneInclude.view.Includes "/r" "/r/UnifiedSource1.c"
      included := by
    rw [Sources.forall_includes_iff read, named, List.forall_mem_singleton]
    with_unfolding_all decide
  rw [source] at way
  rcases Relation.ReflTransGen.cases_head way with rfl | ⟨included, edge, -⟩
  · rfl
  · exact absurd edge (leaf included)

end UnityBuild
