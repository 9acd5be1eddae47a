import Mathlib.Logic.Relation
import UnityBuild.Proofs.Expansion.Step

/-!
# The graph of unified sources

An edge leads from a source to every unified source that it includes. Read from an absolute base, an
include stands for one path, so an expansion moves along these edges, and the chain is the way it
came. It succeeds exactly when every source that can be reached is readable and none of them leads
back to itself. A source that is reached twice on different ways is expanded twice.
-/

namespace UnityBuild

namespace Sources

variable {sources : Sources} {base : String}

/-- The text of a source names a unified source. This is an edge of the graph: it leads to the path
that the reference stands for when it is read from the base. -/
def Includes (sources : Sources) (base : String) (path included : String) : Prop :=
  ∃ bytes, sources.read path = .ok bytes ∧
    ∃ reference ∈ namedPaths bytes, included = resolve base reference ∧
      Path.isUnified included = true

def Readable (sources : Sources) (path : String) : Prop :=
  ∃ bytes, sources.read path = .ok bytes

/-- Nothing that can be reached from a path stops an expansion below a chain: no source is missing,
none is on the chain, and none leads back to itself. -/
def Clear (sources : Sources) (base : String) (chain : List String) (path : String) : Prop :=
  ∀ reached, Relation.ReflTransGen (sources.Includes base) path reached →
    sources.Readable reached ∧ reached ∉ chain ∧
      ¬ Relation.TransGen (sources.Includes base) reached reached

/-- Below a chain with one more source, the way back to that source is closed. So what is clear
there adds no cycle through it. -/
theorem clear_iff {chain : List String} {path : String} :
    sources.Clear base chain path ↔
      path ∉ chain ∧ sources.Readable path ∧
        ∀ included, sources.Includes base path included →
          sources.Clear base (chain ++ [path]) included := by
  constructor
  · intro clear
    obtain ⟨readable, fresh, acyclic⟩ := clear path .refl
    refine ⟨fresh, readable, fun included edge reached way => ?_⟩
    obtain ⟨readable', fresh', acyclic'⟩ := clear reached (.head edge way)
    have other : reached ≠ path := by
      rintro rfl
      exact acyclic (.head' edge way)
    exact ⟨readable', by simp [fresh', other], acyclic'⟩
  · rintro ⟨fresh, readable, clear⟩ reached way
    rcases Relation.ReflTransGen.cases_head way with rfl | ⟨included, edge, way⟩
    · refine ⟨readable, fresh, fun cycle => ?_⟩
      obtain ⟨included, edge, way⟩ := Relation.TransGen.head'_iff.mp cycle
      exact (clear included edge path way).2.1 (by simp)
    · obtain ⟨readable', fresh', acyclic'⟩ := clear included edge reached way
      exact ⟨readable', fun member => fresh' (by simp [member]), acyclic'⟩

/-- From an absolute base, the entry made for an include is read at the path that the include
stands for. -/
theorem resolve_forInclude_file (absolute : Path.isAbsolute base = true) (entry : Entry)
    (reference : String) :
    resolve base (entry.forInclude base reference).file = resolve base reference := by
  rw [Entry.forInclude_file, resolve_resolve absolute]

/-- The edges that leave a source are its named includes that stand for unified paths. -/
theorem forall_includes_iff {path : String} {bytes : Bytes}
    (read : sources.read path = .ok bytes) {motive : String → Prop} :
    (∀ included, sources.Includes base path included → motive included) ↔
      ∀ reference ∈ namedPaths bytes, Path.isUnified (resolve base reference) = true →
        motive (resolve base reference) := by
  constructor
  · intro h reference named unified
    exact h _ ⟨bytes, read, reference, named, rfl, unified⟩
  · rintro h _ ⟨other, readOther, reference, named, rfl, unified⟩
    cases read.symm.trans readOther
    exact h reference named unified

theorem map_namedPaths_eq_ok_iff {path : String} {references : List String} :
    (sources.read path).map namedPaths = .ok references ↔
      ∃ bytes, sources.read path = .ok bytes ∧ namedPaths bytes = references := by
  cases sources.read path <;> simp [Except.map]

theorem includes_of_named {path reference : String} (references : List String)
    (named : (sources.read path).map namedPaths = .ok references) (member : reference ∈ references)
    (unified : Path.isUnified (resolve base reference) = true) :
    sources.Includes base path (resolve base reference) := by
  obtain ⟨bytes, read, rfl⟩ := map_namedPaths_eq_ok_iff.mp named
  exact ⟨bytes, read, reference, member, rfl, unified⟩

/-- Clearness is decided by following the named includes of a source one by one. -/
theorem clear_of_named {chain : List String} {path : String} (references : List String)
    (fresh : path ∉ chain) (named : (sources.read path).map namedPaths = .ok references)
    (below : ∀ reference ∈ references, Path.isUnified (resolve base reference) = true →
      sources.Clear base (chain ++ [path]) (resolve base reference)) :
    sources.Clear base chain path := by
  obtain ⟨bytes, read, rfl⟩ := map_namedPaths_eq_ok_iff.mp named
  exact clear_iff.mpr ⟨fresh, ⟨bytes, read⟩, (forall_includes_iff read).mpr below⟩

/-- An expansion succeeds when the source is fresh and readable and its includes succeed. -/
theorem exists_yields_iff {chain : List String} {entry : Entry}
    (known : sources.Known base chain entry) :
    (∃ entries, sources.Yields base chain entry entries) ↔
      resolve base entry.file ∉ chain ∧
        ∃ bytes, sources.read (resolve base entry.file) = .ok bytes ∧
          ∀ reference ∈ namedPaths bytes, (entry.forInclude base reference).isUnified = true →
            ∃ part, sources.Yields base (chain ++ [resolve base entry.file])
              (entry.forInclude base reference) part := by
  have contributes (chain : List String) (reference : String) :
      (∃ part, sources.Contributes base chain entry reference part) ↔
        ((entry.forInclude base reference).isUnified = true →
          ∃ part, sources.Yields base chain (entry.forInclude base reference) part) := by
    by_cases unified : (entry.forInclude base reference).isUnified = true
    · simp [Contributes, unified]
    · simp [Contributes, unified]
  simp only [yields_iff known, ← contributes, ← exists_forall₂_iff]
  constructor
  · rintro ⟨_, fresh, bytes, read, parts, all, rfl⟩
    exact ⟨fresh, bytes, read, parts, all⟩
  · rintro ⟨fresh, bytes, read, parts, all⟩
    exact ⟨_, fresh, bytes, read, parts, all, rfl⟩

/-- Success is decided by following the named includes of a source one by one. -/
theorem exists_yields_of_named {chain : List String} {entry : Entry}
    (known : sources.Known base chain entry) (references : List String)
    (fresh : resolve base entry.file ∉ chain)
    (named : (sources.read (resolve base entry.file)).map namedPaths = .ok references)
    (below : ∀ reference ∈ references, (entry.forInclude base reference).isUnified = true →
      sources.Known base (chain ++ [resolve base entry.file]) (entry.forInclude base reference) →
        ∃ part, sources.Yields base (chain ++ [resolve base entry.file])
          (entry.forInclude base reference) part) :
    ∃ entries, sources.Yields base chain entry entries := by
  obtain ⟨bytes, read, rfl⟩ := map_namedPaths_eq_ok_iff.mp named
  refine (exists_yields_iff known).mpr ⟨fresh, bytes, read, fun reference among unified => ?_⟩
  exact below reference among unified
    (known_forInclude read (List.mem_filter.mp among).1 _ entry)

/-- A source that includes plain files only is expanded. -/
theorem exists_yields_of_plain {chain : List String} {entry : Entry}
    (known : sources.Known base chain entry) (references : List String)
    (fresh : resolve base entry.file ∉ chain)
    (named : (sources.read (resolve base entry.file)).map namedPaths = .ok references)
    (plain : ∀ reference ∈ references, (entry.forInclude base reference).isUnified = false) :
    ∃ entries, sources.Yields base chain entry entries := by
  refine exists_yields_of_named known references fresh named fun reference member unified => ?_
  rw [plain reference member] at unified
  cases unified

/-- Success and clearness obey one law for a step, so they agree by induction on the chain. -/
theorem exists_yields_iff_clear (absolute : Path.isAbsolute base = true) {chain : List String}
    {entry : Entry} (known : sources.Known base chain entry) :
    (∃ entries, sources.Yields base chain entry entries) ↔
      sources.Clear base chain (resolve base entry.file) := by
  refine expansion_induction (motive := fun chain entry =>
    (∃ entries, sources.Yields base chain entry entries) ↔
      sources.Clear base chain (resolve base entry.file)) (fun chain entry known ih => ?_) known
  rw [exists_yields_iff known, clear_iff]
  refine and_congr_right fun fresh => ?_
  have step : ∀ bytes, sources.read (resolve base entry.file) = .ok bytes →
      ∀ reference ∈ namedPaths bytes,
        ((∃ part, sources.Yields base (chain ++ [resolve base entry.file])
          (entry.forInclude base reference) part) ↔
        sources.Clear base (chain ++ [resolve base entry.file]) (resolve base reference)) := by
    intro bytes read reference named
    rw [ih bytes fresh read reference (List.mem_filter.mp named).1,
      resolve_forInclude_file absolute]
  constructor
  · rintro ⟨bytes, read, all⟩
    refine ⟨⟨bytes, read⟩, (forall_includes_iff read).mpr fun reference named unified => ?_⟩
    exact (step bytes read reference named).mp (all reference named unified)
  · rintro ⟨⟨bytes, read⟩, all⟩
    refine ⟨bytes, read, fun reference named unified => ?_⟩
    have clear := (forall_includes_iff read).mp all reference named unified
    exact (step bytes read reference named).mpr clear

/-- The way that an expansion has come: the source it stands at is reached from where it started,
and every source of the chain leads to it. -/
structure Route (sources : Sources) (base start : String) (chain : List String) (path : String) :
    Prop where
  reached : Relation.ReflTransGen (sources.Includes base) start path
  leads : ∀ earlier ∈ chain, Relation.TransGen (sources.Includes base) earlier path

theorem Route.start (path : String) : sources.Route base path [] path :=
  ⟨.refl, by simp⟩

theorem Route.append {start path included : String} {chain : List String}
    (route : sources.Route base start chain path) (edge : sources.Includes base path included) :
    sources.Route base start (chain ++ [path]) included := by
  refine ⟨route.reached.tail edge, fun earlier member => ?_⟩
  rcases List.mem_append.mp member with member | member
  · exact (route.leads earlier member).tail edge
  · rw [List.mem_singleton.mp member]
    exact .single edge

/-- A cycle is reported for a source that can be reached and that leads back to itself. -/
theorem cycle_of_fails (absolute : Path.isAbsolute base = true) {start : String}
    {chain : List String} {entry : Entry} (known : sources.Known base chain entry)
    (route : sources.Route base start chain (resolve base entry.file)) {failure : Failure}
    (fails : sources.Fails base chain entry failure) {includer included : String}
    (cycle : failure.cause = .cycle includer included) :
    Relation.ReflTransGen (sources.Includes base) start included ∧
      Relation.TransGen (sources.Includes base) included included := by
  refine expansion_induction (motive := fun chain entry => ∀ failure,
    sources.Route base start chain (resolve base entry.file) →
    sources.Fails base chain entry failure → failure.cause = .cycle includer included →
      Relation.ReflTransGen (sources.Includes base) start included ∧
        Relation.TransGen (sources.Includes base) included included)
    (fun chain entry known ih failure route fails cycle => ?_) known failure route fails cycle
  rcases cases_of_fails fails with ⟨member, rfl⟩ | ⟨-, reason, -, rfl⟩ |
    ⟨fresh, bytes, read, front, reference, rest, -, inner, split, -, ⟨unified, breaks⟩, rfl⟩
  · obtain ⟨-, rfl⟩ : _ ∧ resolve base entry.file = included := by
      simpa [Failure.of] using cycle
    exact ⟨route.reached, route.leads _ member⟩
  · cases cycle
  · have named : reference ∈ namedPaths bytes := by
      simp [split]
    have edge : sources.Includes base (resolve base entry.file) (resolve base reference) :=
      ⟨bytes, read, reference, named, rfl, unified⟩
    rw [← resolve_forInclude_file absolute entry reference] at edge
    exact ih bytes fresh read reference (List.mem_filter.mp named).1 inner (route.append edge)
      breaks cycle

theorem expand_eq_ok_iff_yields {entry : Entry} (unified : entry.isUnified = true)
    {entries : List Entry} :
    (sources.expand base entry).result = .ok entries ↔ sources.Yields base [] entry entries := by
  rw [yields_iff_result (.inl rfl), expand, if_pos unified]

theorem expand_eq_error_iff_fails {entry : Entry} (unified : entry.isUnified = true)
    {failure : Failure} :
    (sources.expand base entry).result = .error failure ↔
      sources.Fails base [] entry failure := by
  rw [fails_iff_result (.inl rfl), expand, if_pos unified]

theorem expand_eq_ok_iff_resolved {entry : Entry} (plain : entry.isUnified = false)
    {entries : List Entry} :
    (sources.expand base entry).result = .ok entries ↔ entries = [entry.resolved base] := by
  rw [expand, if_neg (by simp [plain])]
  simp [Except.map, eq_comm]

/-- An expansion succeeds exactly when every source that can be reached is readable and no cycle can
be reached. In particular a source that is reached on several ways is never taken for a cycle: a
cycle that is reported is one that can be reached. -/
theorem expand_succeeds_iff (absolute : Path.isAbsolute base = true) {entry : Entry}
    (unified : entry.isUnified = true) :
    ((∃ entries, (sources.expand base entry).result = .ok entries) ↔
      ∀ path, Relation.ReflTransGen (sources.Includes base) (resolve base entry.file) path →
        sources.Readable path ∧ ¬ Relation.TransGen (sources.Includes base) path path) ∧
    ∀ failure includer included, (sources.expand base entry).result = .error failure →
      failure.cause = .cycle includer included →
        Relation.ReflTransGen (sources.Includes base) (resolve base entry.file) included ∧
          Relation.TransGen (sources.Includes base) included included := by
  constructor
  · simp only [expand_eq_ok_iff_yields unified, exists_yields_iff_clear absolute (.inl rfl), Clear,
      List.not_mem_nil, not_false_eq_true, true_and]
  · intro failure includer included fails cycle
    exact cycle_of_fails absolute (.inl rfl) (.start _)
      ((expand_eq_error_iff_fails unified).mp fails) cycle

end Sources

/-- Three unified sources below one directory. The first includes the other two, and the second
includes the third twice. -/
def FileSystem.diamond : FileSystem where
  nodes :=
    [(["r"], .directory),
      (["r", "UnifiedSource1.c"],
        .file (Utf8.encode "#include \"UnifiedSource2.c\"\n#include \"UnifiedSource3.c\"\n")),
      (["r", "UnifiedSource2.c"],
        .file (Utf8.encode "#include \"UnifiedSource3.c\"\n#include \"UnifiedSource3.c\"\n")),
      (["r", "UnifiedSource3.c"], .file (Utf8.encode "#include \"\"\n#include \"a.c\"\n"))]
  here := .root

theorem diamond_second : resolve "/r" "UnifiedSource2.c" = "/r/UnifiedSource2.c" := by
  with_unfolding_all rfl

theorem diamond_third : resolve "/r" "UnifiedSource3.c" = "/r/UnifiedSource3.c" := by
  with_unfolding_all rfl

theorem diamond_leaf : Path.isUnified (resolve "/r" "a.c") = false := by
  with_unfolding_all rfl

theorem diamond_clear_third {chain : List String} (fresh : "/r/UnifiedSource3.c" ∉ chain) :
    FileSystem.diamond.view.Clear "/r" chain "/r/UnifiedSource3.c" := by
  refine Sources.clear_of_named ["a.c"] fresh rfl ?_
  rw [List.forall_mem_singleton, diamond_leaf]
  exact nofun

theorem diamond_clear_second {chain : List String} (fresh : "/r/UnifiedSource2.c" ∉ chain)
    (unread : "/r/UnifiedSource3.c" ∉ chain) :
    FileSystem.diamond.view.Clear "/r" chain "/r/UnifiedSource2.c" := by
  refine Sources.clear_of_named ["UnifiedSource3.c", "UnifiedSource3.c"] fresh rfl ?_
  simpa [diamond_third] using fun _ => diamond_clear_third (by simp [unread])

theorem diamond_clear_first : FileSystem.diamond.view.Clear "/r" [] "/r/UnifiedSource1.c" := by
  refine Sources.clear_of_named ["UnifiedSource2.c", "UnifiedSource3.c"] (by simp) rfl ?_
  simp only [List.forall_mem_cons, List.not_mem_nil, false_implies, implies_true, and_true,
    diamond_second, diamond_third]
  exact ⟨fun _ => diamond_clear_second (by decide) (by decide),
    fun _ => diamond_clear_third (by decide)⟩

/-- Two unified sources that include each other, and a third one that includes one that is
missing. -/
def FileSystem.ring : FileSystem where
  nodes :=
    [(["r"], .directory),
      (["r", "UnifiedSource1.c"], .file (Utf8.encode "#include \"UnifiedSource2.c\"\n")),
      (["r", "UnifiedSource2.c"], .file (Utf8.encode "#include \"UnifiedSource1.c\"\n")),
      (["r", "UnifiedSource3.c"], .file (Utf8.encode "#include \"UnifiedSource4.c\"\n"))]
  here := .root

theorem ring_cycle :
    Relation.TransGen (FileSystem.ring.view.Includes "/r") (resolve "/r" "UnifiedSource1.c")
      (resolve "/r" "UnifiedSource1.c") := by
  have there : FileSystem.ring.view.Includes "/r" (resolve "/r" "UnifiedSource1.c")
      (resolve "/r" "UnifiedSource2.c") :=
    Sources.includes_of_named ["UnifiedSource2.c"] (by with_unfolding_all rfl) (.head _)
      (by with_unfolding_all rfl)
  have back : FileSystem.ring.view.Includes "/r" (resolve "/r" "UnifiedSource2.c")
      (resolve "/r" "UnifiedSource1.c") :=
    Sources.includes_of_named ["UnifiedSource1.c"] (by with_unfolding_all rfl) (.head _)
      (by with_unfolding_all rfl)
  exact .tail (.single there) back

theorem ring_gap :
    FileSystem.ring.view.Includes "/r" (resolve "/r" "UnifiedSource3.c")
        (resolve "/r" "UnifiedSource4.c") ∧
      ¬ FileSystem.ring.view.Readable (resolve "/r" "UnifiedSource4.c") := by
  refine ⟨Sources.includes_of_named ["UnifiedSource4.c"] (by with_unfolding_all rfl) (.head _)
    (by with_unfolding_all rfl), ?_⟩
  rintro ⟨bytes, read⟩
  have missing : FileSystem.ring.view.read (resolve "/r" "UnifiedSource4.c") =
      .error (.opening .notFound) := by with_unfolding_all rfl
  cases missing.symm.trans read

/-- The diamond is expanded, although one of its sources is reached on three ways. The ring is not,
neither from a source that leads back to itself nor from the one that leads to the missing one. -/
theorem diamond_succeeds_ring_fails :
    Path.isAbsolute "/r" = true ∧ (⟨"/d", "cc", "UnifiedSource1.c"⟩ : Entry).isUnified = true ∧
      (∃ entries, (FileSystem.diamond.view.expand "/r" ⟨"/d", "cc", "UnifiedSource1.c"⟩).result =
        .ok entries) ∧
      (¬ ∃ entries, (FileSystem.ring.view.expand "/r" ⟨"/d", "cc", "UnifiedSource1.c"⟩).result =
        .ok entries) ∧
      ¬ ∃ entries, (FileSystem.ring.view.expand "/r" ⟨"/d", "cc", "UnifiedSource3.c"⟩).result =
        .ok entries := by
  have absolute : Path.isAbsolute "/r" = true := rfl
  have unified : (⟨"/d", "cc", "UnifiedSource1.c"⟩ : Entry).isUnified = true := rfl
  have first : resolve "/r" "UnifiedSource1.c" = "/r/UnifiedSource1.c" := by
    with_unfolding_all rfl
  refine ⟨absolute, unified, ?_, ?_, ?_⟩
  · refine (Sources.expand_succeeds_iff absolute unified).1.mpr fun path way => ?_
    obtain ⟨readable, -, acyclic⟩ := diamond_clear_first path (first ▸ way)
    exact ⟨readable, acyclic⟩
  · intro success
    exact ((Sources.expand_succeeds_iff absolute unified).1.mp success _ .refl).2 ring_cycle
  · intro success
    have reached := (Sources.expand_succeeds_iff absolute rfl).1.mp success _ (.single ring_gap.1)
    exact ring_gap.2 reached.1

end UnityBuild
