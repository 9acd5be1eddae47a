import UnityBuild.Proofs.Expansion.Stack

/-!
# The log of an expansion

An expansion goes through the includes of a source one by one and enters an included unified source
where it is named. What becomes of the includes is a tree: an include is ignored because it is
empty, an entry is kept for it, or its source is opened and its own includes come before the rest.
The tree has nothing of the stack in it, and neither the log nor the entries are mentioned when it
is read off the sources.

An expansion that succeeds follows the one tree of its source. Its lines and its entries are those
of the tree, and so no include is dropped without a trace: as many are seen as entries are made,
warnings about empty includes are given, and sources are opened inside the expansion.
-/

namespace UnityBuild

/-- What becomes of the includes of a source, in their order. A passage is a tree, in which each
source that is opened has the passage through its own includes. -/
inductive Passage where
  | done
  /-- An include is empty. -/
  | ignored (rest : Passage)
  /-- An entry is made for an include and kept. -/
  | kept (made : Entry) (rest : Passage)
  /-- An entry is made for an include, and its source is gone through before the rest. -/
  | opened (made : Entry) (inner rest : Passage)

def emptyLine (path : String) : LogLine :=
  ⟨.warn, .expansion, Sources.emptyWarning path⟩

/-- The line about an included file, unless its extension is known. -/
def includedLines (includer made : Entry) : List LogLine :=
  if made.isRecognized then [] else [⟨.warn, .expansion, Sources.includedWarning made includer⟩]

/-- The line about a file that stays, unless its extension is known. -/
def passedLines (entry : Entry) : List LogLine :=
  if entry.isRecognized then [] else [⟨.warn, .expansion, Sources.passedWarning entry⟩]

def expandedLine (entry : Entry) (count : Nat) : LogLine :=
  ⟨.debug, .expansion, Sources.expandedNote entry count⟩

namespace Passage

def entries : Passage → List Entry
  | done => []
  | ignored rest => rest.entries
  | kept made rest => made :: rest.entries
  | opened _ inner rest => inner.entries ++ rest.entries

/-- The lines on the way through the includes of a source, which is read at a path. -/
def lines (base : String) (path : String) (source : Entry) : Passage → List LogLine
  | done => []
  | ignored rest => emptyLine path :: rest.lines base path source
  | kept made rest => includedLines source made ++ rest.lines base path source
  | opened made inner rest =>
    includedLines source made ++ inner.lines base (resolve base made.file) made ++
      [expandedLine made inner.entries.length] ++ rest.lines base path source

def seen : Passage → Nat
  | done => 0
  | ignored rest => rest.seen + 1
  | kept _ rest => rest.seen + 1
  | opened _ inner rest => inner.seen + rest.seen + 1

def empties : Passage → Nat
  | done => 0
  | ignored rest => rest.empties + 1
  | kept _ rest => rest.empties
  | opened _ inner rest => inner.empties + rest.empties

def openings : Passage → Nat
  | done => 0
  | ignored rest => rest.openings
  | kept _ rest => rest.openings
  | opened _ inner rest => inner.openings + rest.openings + 1

theorem seen_eq (passage : Passage) :
    passage.seen = passage.entries.length + passage.empties + passage.openings := by
  induction passage with
  | done => rfl
  | ignored rest ih =>
    simp only [seen, entries, empties, openings, ih]
    omega
  | kept made rest ih =>
    simp only [seen, entries, empties, openings, ih, List.length_cons]
    omega
  | opened made inner rest ih ih' =>
    simp only [seen, entries, empties, openings, ih, ih', List.length_append]
    omega

end Passage

/-! ## Counting lines -/

/-- The line is a warning about an empty include. -/
def LogLine.isAboutEmpty (line : LogLine) : Bool :=
  line.level == .warn && "Ignoring empty include directive".toList.isPrefixOf line.text.toList

/-- The line ends a visit. -/
def LogLine.isAboutVisit (line : LogLine) : Bool :=
  line.level == .debug

theorem emptyWarning_eq (path : String) :
    Sources.emptyWarning path =
      "Ignoring empty include directive" ++ (" in '" ++ path ++ "'") := by
  rw [← String.append_assoc, ← String.append_assoc]
  rfl

@[simp] theorem isAboutEmpty_emptyLine (path : String) : (emptyLine path).isAboutEmpty = true := by
  have begins : "Ignoring empty include directive".toList <+:
      (Sources.emptyWarning path).toList := by
    rw [emptyWarning_eq, String.toList_append]
    exact List.prefix_append _ _
  simpa [LogLine.isAboutEmpty, emptyLine] using begins

@[simp] theorem isAboutVisit_emptyLine (path : String) :
    (emptyLine path).isAboutVisit = false := rfl

@[simp] theorem isAboutEmpty_expandedLine (entry : Entry) (count : Nat) :
    (expandedLine entry count).isAboutEmpty = false := rfl

@[simp] theorem isAboutVisit_expandedLine (entry : Entry) (count : Nat) :
    (expandedLine entry count).isAboutVisit = true := rfl

@[simp] theorem countP_isAboutEmpty_includedLines (includer made : Entry) :
    (includedLines includer made).countP (·.isAboutEmpty) = 0 := by
  unfold includedLines
  split
  · rfl
  · simp [LogLine.isAboutEmpty, Sources.includedWarning]

@[simp] theorem countP_isAboutVisit_includedLines (includer made : Entry) :
    (includedLines includer made).countP (·.isAboutVisit) = 0 := by
  unfold includedLines
  split <;> rfl

namespace Passage

variable {base path : String} {source : Entry}

/-- One warning is given for each include that is empty, whether it stands in the source itself or
in one that is opened on the way. -/
theorem countP_isAboutEmpty_lines (passage : Passage) :
    (passage.lines base path source).countP (·.isAboutEmpty) = passage.empties := by
  induction passage generalizing path source with
  | done => rfl
  | ignored rest ih => simp [lines, empties, ih]
  | kept made rest ih => simp [lines, empties, ih]
  | opened made inner rest ih ih' => simp [lines, empties, ih, ih']

/-- One line ends the visit of each source that is opened. -/
theorem countP_isAboutVisit_lines (passage : Passage) :
    (passage.lines base path source).countP (·.isAboutVisit) = passage.openings := by
  induction passage generalizing path source with
  | done => rfl
  | ignored rest ih => simp [lines, openings, ih]
  | kept made rest ih => simp [lines, openings, ih]
  | opened made inner rest ih ih' =>
    simp only [lines, openings, List.countP_append, countP_isAboutVisit_includedLines, ih, ih',
      List.countP_singleton, isAboutVisit_expandedLine, if_true]
    omega

end Passage

namespace Sources

variable {sources : Sources} {base : String}

/-! ## Traversals -/

/-- A passage through the includes of a source, as far as they are left. -/
inductive Traverses (sources : Sources) (base : String) : Entry → List String → Passage → Prop
  | done {source : Entry} : Traverses sources base source [] .done
  | ignored {source : Entry} {rest : List String} {behind : Passage}
      (others : Traverses sources base source rest behind) :
      Traverses sources base source ("" :: rest) (.ignored behind)
  | kept {source : Entry} {reference : String} {rest : List String} {behind : Passage}
      (named : reference ≠ "") (plain : (source.forInclude base reference).isUnified = false)
      (others : Traverses sources base source rest behind) :
      Traverses sources base source (reference :: rest)
        (.kept (source.forInclude base reference) behind)
  | opened {source : Entry} {reference : String} {rest : List String} {inner behind : Passage}
      {bytes : Bytes} (named : reference ≠ "")
      (unified : (source.forInclude base reference).isUnified = true)
      (read : sources.read (resolve base (source.forInclude base reference).file) = .ok bytes)
      (below : Traverses sources base (source.forInclude base reference) (includedPaths bytes)
        inner)
      (others : Traverses sources base source rest behind) :
      Traverses sources base source (reference :: rest)
        (.opened (source.forInclude base reference) inner behind)

/-- The sources leave no choice of a passage: each include is empty, plain or unified, and a unified
one is opened with the text that is read. -/
theorem Traverses.unique {source : Entry} {included : List String} {passage other : Passage}
    (traverses : sources.Traverses base source included passage)
    (traverses' : sources.Traverses base source included other) : other = passage := by
  induction traverses generalizing other with
  | done =>
    cases traverses'
    rfl
  | ignored _ ih =>
    cases traverses' with
    | ignored others => rw [ih others]
    | kept named => exact absurd rfl named
    | opened named => exact absurd rfl named
  | kept named plain _ ih =>
    cases traverses' with
    | ignored => exact absurd rfl named
    | kept _ _ others => rw [ih others]
    | opened _ unified => cases plain.symm.trans unified
  | opened named unified read _ _ ih ih' =>
    cases traverses' with
    | ignored => exact absurd rfl named
    | kept _ plain => cases plain.symm.trans unified
    | opened _ _ read' below others =>
      cases read.symm.trans read'
      rw [ih below, ih' others]

/-! ## Outcomes -/

theorem passed_eq (base : String) (entry : Entry) :
    passed base entry = ⟨passedLines entry, .ok [entry.resolved base]⟩ := by
  cases recognized : entry.isRecognized <;>
    simp [passed, passedLines, recognized, Outcome.writeIf, bind, Outcome.bind, pure, Outcome.pure]

theorem ignored_mk (path : String) (log : List LogLine) (result : Except Failure (List Entry)) :
    ignored path ⟨log, result⟩ = ⟨emptyLine path :: log, result⟩ := rfl

theorem announced_mk (includer made : Entry) (log : List LogLine)
    (result : Except Failure (List Entry)) :
    announced includer made ⟨log, result⟩ = ⟨includedLines includer made ++ log, result⟩ := by
  cases recognized : made.isRecognized <;>
    simp [announced, includedLines, recognized, Outcome.writeIf, bind, Outcome.bind]

theorem noted_mk (entry : Entry) (log : List LogLine) (entries : List Entry) :
    noted entry ⟨log, .ok entries⟩ = ⟨log ++ [expandedLine entry entries.length], .ok entries⟩ :=
  rfl

theorem within_mk (log : List LogLine) (entries : List Entry) (context : Context) :
    Outcome.within ⟨log, .ok entries⟩ context = ⟨log, .ok entries⟩ := rfl

theorem followed_mk (log log' : List LogLine) (part others : List Entry) :
    followed ⟨log, .ok part⟩ ⟨log', .ok others⟩ = ⟨log ++ log', .ok (part ++ others)⟩ := by
  simp [followed, bind, Outcome.bind, pure, Outcome.pure]

/-- What a call has to come to that succeeds, by the passage through what it has to do. -/
def Task.Follows (sources : Sources) (base : String) (outcome : Outcome (List Entry)) :
    Task → Prop
  | .entry source => source.isUnified = true → ∃ bytes passage,
      sources.read (resolve base source.file) = .ok bytes ∧
      sources.Traverses base source (includedPaths bytes) passage ∧
      outcome = ⟨passage.lines base (resolve base source.file) source ++
        [expandedLine source passage.entries.length], .ok passage.entries⟩
  | .includes path source included => ∃ passage,
      sources.Traverses base source included passage ∧
      outcome = ⟨passage.lines base path source, .ok passage.entries⟩

/-- A run that succeeds follows the passage through its sources, and so logs the lines of that
passage in their order and yields its entries. -/
theorem Runs.follows {call : Call} {below : List Call} (run : sources.Runs base call below)
    {entries : List Entry} (success : call.outcome.result = .ok entries) :
    call.task.Follows sources base call.outcome := by
  -- A call below one that succeeds has succeeded too, so the rules for failures do not apply.
  induction run generalizing entries with
  | stays plain =>
    intro unified
    cases plain.symm.trans unified
  | cycle => cases success
  | unread => cases success
  | @popped stack entry bytes inner below more unified fresh read asks run success' ih =>
    intro _
    have follows := ih success'
    rw [asks.2] at follows
    obtain ⟨passage, traverses, outcome⟩ := follows
    exact ⟨bytes, passage, read, traverses, by rw [outcome, noted_mk]⟩
  | broken _ _ _ _ _ failed =>
    obtain ⟨more, inner⟩ := exists_of_noted_eq_ok success
    cases failed.symm.trans inner
  | done => exact ⟨.done, .done, rfl⟩
  | @skipped stack path first entry rest others below empty asks run ih =>
    rw [result_ignored] at success
    have follows := ih success
    rw [asks.2] at follows
    obtain ⟨behind, traverses, outcome⟩ := follows
    obtain rfl := String.isEmpty_iff.mp empty
    exact ⟨.ignored behind, .ignored traverses, by rw [outcome, ignored_mk]; rfl⟩
  | @added stack path first entry rest others below named plain asks run ih =>
    obtain ⟨more, success'⟩ := exists_of_followed_eq_ok success
    have follows := ih success'
    rw [asks.2] at follows
    obtain ⟨behind, traverses, outcome⟩ := follows
    refine ⟨.kept _ behind, .kept (by simpa using named) plain traverses, ?_⟩
    show followed (announced entry _ ⟨[], .ok [_]⟩) _ = _
    rw [outcome, announced_mk, followed_mk, List.append_nil]
    rfl
  | @called stack path first entry rest inner others below below' part named unified asks run
      success' asks' run' ih ih' =>
    obtain ⟨more, success''⟩ := exists_of_followed_eq_ok success
    have follows := ih success'
    rw [asks.2] at follows
    obtain ⟨bytes, passage, read, traverses, outcome⟩ := follows unified
    have follows' := ih' success''
    rw [asks'.2] at follows'
    obtain ⟨behind, traverses', outcome'⟩ := follows'
    refine ⟨.opened _ passage behind, .opened (by simpa using named) unified read traverses
      traverses', ?_⟩
    show followed (announced entry _ (inner.outcome.within _)) _ = _
    rw [outcome, outcome', within_mk, announced_mk, followed_mk, ← List.append_assoc]
    rfl
  | failed _ _ _ _ failed =>
    rw [result_announced, Outcome.result_within_eq_ok_iff] at success
    cases failed.symm.trans success

/-- The log of an expansion that succeeds tells all of it. For a file that stays, it is the line
about its extension, if any. For a unified source, its lines and its entries are those of the one
passage through the sources, with a line for the number of entries at the end. So each include that
is seen makes an entry, is warned about because it is empty, or is a source whose own visit ends
with a line as well. -/
theorem expand_log {entry : Entry} {entries : List Entry}
    (success : (sources.expand base entry).result = .ok entries) :
    (entry.isUnified = false → (sources.expand base entry).log = passedLines entry) ∧
    (entry.isUnified = true → ∃ bytes passage,
      sources.read (resolve base entry.file) = .ok bytes ∧
      (∀ other, sources.Traverses base entry (includedPaths bytes) other ↔ other = passage) ∧
      entries = passage.entries ∧
      (sources.expand base entry).log = passage.lines base (resolve base entry.file) entry ++
        [expandedLine entry entries.length] ∧
      passage.seen = entries.length + (sources.expand base entry).log.countP (·.isAboutEmpty) +
        passage.openings ∧
      (sources.expand base entry).log.countP (·.isAboutVisit) = passage.openings + 1) := by
  constructor
  · intro plain
    have stays : sources.expand base entry = passed base entry := by
      rw [expand, if_neg (by simp [plain]), passed]
    rw [stays, passed_eq]
  · intro unified
    obtain ⟨call, below, asks, run⟩ := exists_runs (.inl rfl)
    rw [← run.outcome_eq_expand asks] at success ⊢
    have follows := run.follows success
    rw [asks.2] at follows
    obtain ⟨bytes, passage, read, traverses, same⟩ := follows unified
    rw [same] at success ⊢
    cases success
    refine ⟨bytes, passage, read, fun other => ⟨traverses.unique, ?_⟩, rfl, rfl, ?_, ?_⟩
    · rintro rfl
      exact traverses
    · simp [passage.countP_isAboutEmpty_lines, passage.seen_eq]
    · simp [passage.countP_isAboutVisit_lines]

end Sources

/-- A unified source with an empty include, a file of an unknown extension and a unified source that
has an empty include as well. -/
def FileSystem.uneven : FileSystem where
  nodes :=
    [(["r"], .directory),
      (["r", "UnifiedSource1.c"], .file (Utf8.encode
        "#include \"\"\n#include \"a.txt\"\n#include \"UnifiedSource2.c\"\n")),
      (["r", "UnifiedSource2.c"], .file (Utf8.encode "#include \"b.c\"\n#include \"\"\n"))]
  here := .root

/-- The C file is the only include that leaves no line. Both empty includes are warned about, each
with the path of the source that it stands in. -/
theorem uneven_log :
    ∃ entries, (FileSystem.uneven.view.expand "/r" ⟨"/d", "cc", "UnifiedSource1.c"⟩).result =
        .ok entries ∧
      (FileSystem.uneven.view.expand "/r" ⟨"/d", "cc", "UnifiedSource1.c"⟩).log =
        [⟨.warn, .expansion, "Ignoring empty include directive in '/r/UnifiedSource1.c'"⟩,
          ⟨.warn, .expansion, "'/r/a.txt' (included from 'UnifiedSource1.c') " ++
            "doesn't look like a C-family source file"⟩,
          ⟨.warn, .expansion, "Ignoring empty include directive in '/r/UnifiedSource2.c'"⟩,
          ⟨.debug, .expansion, "'/r/UnifiedSource2.c' expanded into 1 compile command(s)"⟩,
          ⟨.debug, .expansion, "'UnifiedSource1.c' expanded into 2 compile command(s)"⟩] := by
  have unified : (⟨"/d", "cc", "UnifiedSource1.c"⟩ : Entry).isUnified = true := rfl
  obtain ⟨entries, success⟩ : ∃ entries, (FileSystem.uneven.view.expand "/r"
      ⟨"/d", "cc", "UnifiedSource1.c"⟩).result = .ok entries := by
    simp only [Sources.expand_eq_ok_iff_yields unified]
    refine Sources.exists_yields_of_named (.inl rfl) ["a.txt", "UnifiedSource2.c"] (by simp)
      (by with_unfolding_all rfl) ?_
    simp only [List.forall_mem_cons, List.not_mem_nil, false_implies, implies_true, and_true]
    refine ⟨fun plain => absurd plain (by with_unfolding_all decide), fun _ known => ?_⟩
    exact Sources.exists_yields_of_plain known ["b.c"] (by with_unfolding_all decide)
      (by with_unfolding_all rfl) (by with_unfolding_all decide)
  refine ⟨entries, success, ?_⟩
  obtain ⟨bytes, passage, read, unique, rfl, log, -⟩ := (Sources.expand_log success).2 unified
  obtain ⟨outer, readOuter, included⟩ : ∃ bytes, FileSystem.uneven.view.read
      (resolve "/r" "UnifiedSource1.c") = .ok bytes ∧
      includedPaths bytes = ["", "a.txt", "UnifiedSource2.c"] :=
    ⟨_, by with_unfolding_all rfl, by with_unfolding_all rfl⟩
  obtain ⟨inner, readInner, included'⟩ : ∃ bytes, FileSystem.uneven.view.read
      (resolve "/r" (⟨"/d", "cc", "/r/UnifiedSource2.c"⟩ : Entry).file) = .ok bytes ∧
      includedPaths bytes = ["b.c", ""] :=
    ⟨_, by with_unfolding_all rfl, by with_unfolding_all rfl⟩
  have text : (⟨"/d", "cc", "UnifiedSource1.c"⟩ : Entry).forInclude "/r" "a.txt" =
      ⟨"/d", "cc", "/r/a.txt"⟩ := by with_unfolding_all rfl
  have nested : (⟨"/d", "cc", "UnifiedSource1.c"⟩ : Entry).forInclude "/r" "UnifiedSource2.c" =
      ⟨"/d", "cc", "/r/UnifiedSource2.c"⟩ := by with_unfolding_all rfl
  have leaf : (⟨"/d", "cc", "/r/UnifiedSource2.c"⟩ : Entry).forInclude "/r" "b.c" =
      ⟨"/d", "cc", "/r/b.c"⟩ := by with_unfolding_all rfl
  have below : FileSystem.uneven.view.Traverses "/r" ⟨"/d", "cc", "/r/UnifiedSource2.c"⟩
      (includedPaths inner) (.kept ⟨"/d", "cc", "/r/b.c"⟩ (.ignored .done)) := by
    rw [included', ← leaf]
    exact .kept (by decide) (by rw [leaf]; rfl) (.ignored .done)
  have traverses : FileSystem.uneven.view.Traverses "/r" ⟨"/d", "cc", "UnifiedSource1.c"⟩
      (includedPaths outer) (.ignored (.kept ⟨"/d", "cc", "/r/a.txt"⟩
        (.opened ⟨"/d", "cc", "/r/UnifiedSource2.c"⟩
          (.kept ⟨"/d", "cc", "/r/b.c"⟩ (.ignored .done)) .done))) := by
    rw [← nested] at below readInner ⊢
    rw [included, ← text]
    exact .ignored (.kept (by decide) (by rw [text]; rfl)
      (.opened (by decide) (by rw [nested]; rfl) readInner below .done))
  cases read.symm.trans readOuter
  obtain rfl := (unique _).mp traverses
  rw [log]
  with_unfolding_all rfl

end UnityBuild
