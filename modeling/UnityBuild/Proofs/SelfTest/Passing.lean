import UnityBuild.Proofs.Refinement.Lines
import UnityBuild.Proofs.SelfTest.Refinements

/-!
# Self-tests pass

A self-test puts its sources into its root and refines entries there. In a fresh root only one thing
can go wrong: the system refuses a path that is too long, and the path of a source is longer than
that of the root. A test whose source is refused ends with that reason and refines nothing. So a
test passes exactly when the system takes the paths of its sources, and those without sources always
do. Of the lines of all tests that pass, the verdicts and the line at the end are the only ones that
do not come from a refinement.
-/

namespace UnityBuild

namespace SelfTest

/-! ## Sources put into a root -/

/-- The system takes the paths of all sources that a test puts into its root. -/
def Fits (test : SelfTest) (root : String) : Prop :=
  ∀ source ∈ test.sources, (pathIn root source.1).utf8ByteSize ≤ longestPath

instance (test : SelfTest) (root : String) : Decidable (test.Fits root) :=
  inferInstanceAs (Decidable (∀ source ∈ test.sources, _))

theorem isEntryName_of_mem {test : SelfTest} (known : test ∈ all) :
    ∀ source ∈ test.sources, FileSystem.IsEntryName source.1 := by
  revert test
  decide

section Sources

variable {fs : FileSystem} {names : Location} {sources : List (String × String)}

theorem put_of_ok {root : String} {source : String × String} {after : FileSystem}
    (written : fs.write (pathIn root source.1) (Utf8.encode source.2) = (.ok (), after)) :
    put root fs source = .ok after := by
  simp only [put, written]
  rfl

theorem put_of_error {root : String} {source : String × String} {failure : WriteFailure}
    (unwritten : fs.write (pathIn root source.1) (Utf8.encode source.2) = (.error failure, fs)) :
    put root fs source = .error (.of (.io failure.reason)) := by
  simp only [put, unwritten]
  rfl

/-- Sources whose paths the system takes are all put into the root. -/
theorem exists_put_eq_ok {texts : List (String × String)} (holds : fs.Holds names texts)
    (entryNames : ∀ source ∈ sources, FileSystem.IsEntryName source.1)
    (fits : ∀ source ∈ sources,
      (pathIn (Location.text names) source.1).utf8ByteSize ≤ longestPath) :
    ∃ prepared, sources.foldlM (put (Location.text names)) fs = .ok prepared ∧
      prepared.Holds names (sources.reverse ++ texts) := by
  induction sources generalizing fs texts with
  | nil => exact ⟨fs, rfl, holds⟩
  | cons source rest ih =>
    obtain ⟨after, written, holds⟩ :=
      holds.write_join (entryNames _ (.head _)) (fits _ (.head _)) source.2
    obtain ⟨prepared, others, holds⟩ :=
      ih holds (fun other member => entryNames other (.tail _ member))
        fun other member => fits other (.tail _ member)
    refine ⟨prepared, ?_, ?_⟩
    · rw [List.foldlM_cons, put_of_ok written]
      exact others
    · rwa [List.reverse_cons, List.append_assoc]

/-- A source whose path is too long ends this, whatever was put into the root before it. -/
theorem foldlM_put_of_long {texts : List (String × String)} (holds : fs.Holds names texts)
    (entryNames : ∀ source ∈ sources, FileSystem.IsEntryName source.1)
    (long : ∃ source ∈ sources,
      longestPath < (pathIn (Location.text names) source.1).utf8ByteSize) :
    sources.foldlM (put (Location.text names)) fs = .error (.of (.io .nameTooLong)) := by
  induction sources generalizing fs texts with
  | nil => simp at long
  | cons source rest ih =>
    have entryName := entryNames _ (.head _)
    rw [List.foldlM_cons]
    by_cases short : (pathIn (Location.text names) source.1).utf8ByteSize ≤ longestPath
    · obtain ⟨after, written, holds⟩ := holds.write_join entryName short source.2
      have later := ((List.exists_mem_cons_iff _ _ _).mp long).resolve_left (Nat.not_lt.mpr short)
      rw [put_of_ok written]
      exact ih holds (fun other member => entryNames other (.tail _ member)) later
    · rw [put_of_error (FileSystem.write_of_long (holds.stands.nulless_join entryName)
        (Nat.not_le.mp short) fs (Utf8.encode source.2))]
      rfl

end Sources

/-! ## The tests with two unified sources -/

/-- What the sample is refined into. -/
def sampleRefined (root : String) : List Entry :=
  [entry "cc a.cpp" (resolve root "a.cpp"),
    entry ("cc " ++ resolve root "x.cpp" ++ " -o out.o") (resolve root "x.cpp"),
    entry ("cc " ++ resolve root "y.cpp" ++ " -o out.o") (resolve root "y.cpp"),
    entry ("cc " ++ resolve root "z.cpp") (resolve root "z.cpp")]

section Two

variable {fs : FileSystem} {names : Location} (holds : fs.Holds names twoSources.reverse)
  (fits : ∀ source ∈ twoSources, (pathIn (Location.text names) source.1).utf8ByteSize ≤ longestPath)

include holds fits

theorem read_first :
    (fs.view.read (resolve (Location.text names) "UnifiedSource1.cpp")).map namedPaths =
      .ok ["x.cpp", "y.cpp"] :=
  read_resolve holds.stands.isSpelled (by decide) holds (fits _ (.head _)) rfl rfl

theorem read_second :
    (fs.view.read (resolve (Location.text names) "UnifiedSource2.cpp")).map namedPaths =
      .ok ["z.cpp"] :=
  read_resolve holds.stands.isSpelled (by decide) holds (fits _ (.tail _ (.head _))) rfl rfl

theorem refined_sample :
    (refined fs.view (Location.text names) sample).result =
      .ok (sampleRefined (Location.text names)) := by
  have absolute := Location.isAbsolute_text names
  exact refined_of_forall₂ holds.stands.isSpelled holds (.cons expand_regular
    (.cons (expand_two absolute (read_first holds fits))
      (.cons (expand_commented absolute (read_second holds fits)) .nil)))

theorem isExpanded_passes :
    (isExpanded.check fs.view (Location.text names)).result = .ok () := by
  have expanded := expand_two (Location.isAbsolute_text names) (read_first holds fits)
  exact expect_eq_ok_iff.mpr
    (refined_of_forall₂ holds.stands.isSpelled holds (.cons expanded .nil))

theorem commentIsExpanded_passes :
    (commentIsExpanded.check fs.view (Location.text names)).result = .ok () := by
  have expanded := expand_commented (Location.isAbsolute_text names) (read_second holds fits)
  exact expect_eq_ok_iff.mpr
    (refined_of_forall₂ holds.stands.isSpelled holds (.cons expanded .nil))

theorem noneSurvives_passes :
    (noneSurvives.check fs.view (Location.text names)).result = .ok () := by
  have success := refined_sample holds fits
  have final := final_of_refined (by decide) success
  have plain : (sampleRefined (Location.text names)).find? (·.isUnified) = none :=
    List.find?_eq_none.mpr fun made member => by simp [(final.2 made member).1]
  have absolute : (sampleRefined (Location.text names)).find? (!Path.isAbsolute ·.file) = none :=
    List.find?_eq_none.mpr fun made member => by simp [(final.2 made member).2]
  refine Outcome.result_bind_eq_ok_iff.mpr ⟨_, success, ?_⟩
  rw [plain, absolute]
  rfl

theorem isIdempotent_passes :
    (isIdempotent.check fs.view (Location.text names)).result = .ok () := by
  have once := refined_sample holds fits
  have twice := (final_of_refined (by decide) once).1
  refine Outcome.result_bind_eq_ok_iff.mpr ⟨_, once, ?_⟩
  refine Outcome.result_bind_eq_ok_iff.mpr ⟨_, twice, ?_⟩
  exact result_ensure_eq_ok_iff.mpr (beq_self_eq_true _)

end Two

/-! ## The other tests -/

section Others

variable {fs : FileSystem} {names : Location}

theorem passesThrough_passes (holds : fs.Holds names []) :
    (passesThrough.check fs.view (Location.text names)).result = .ok () :=
  expect_eq_ok_iff.mpr (refined_of_forall₂ holds.stands.isSpelled holds (.cons expand_regular .nil))

theorem nestedIsExpanded_passes (holds : fs.Holds names nestedSources.reverse)
    (fits : ∀ source ∈ nestedSources,
      (pathIn (Location.text names) source.1).utf8ByteSize ≤ longestPath) :
    (nestedIsExpanded.check fs.view (Location.text names)).result = .ok () := by
  have spelled := holds.stands.isSpelled
  have read : (fs.view.read (resolve (Location.text names) "UnifiedSource1.cpp")).map namedPaths =
      .ok ["UnifiedSourceHelpers.cpp", "a.cpp"] :=
    read_resolve spelled (by decide) holds (fits _ (.head _)) rfl rfl
  have readInner : (fs.view.read (resolve (Location.text names)
      "UnifiedSourceHelpers.cpp")).map namedPaths = .ok ["b.cpp"] :=
    read_resolve spelled (by decide) holds (fits _ (.tail _ (.head _))) rfl rfl
  have expanded := expand_nested (Location.isAbsolute_text names) read readInner
  exact expect_eq_ok_iff.mpr (refined_of_forall₂ spelled holds (.cons expanded .nil))

theorem missingRootIsFatal_passes (holds : fs.Holds names []) :
    (missingRootIsFatal.check fs.view (Location.text names)).result = .ok () := by
  refine expectFailure_eq_ok_iff.mpr fun found success => ?_
  obtain ⟨refinement, success, -⟩ := refined_eq_ok_iff.mp success
  obtain ⟨directory, -⟩ := View.refine_eq_ok_iff.mp success
  obtain ⟨place, found, -⟩ := FileSystem.isDirectory_iff.mp directory
  have short := (FileSystem.place?_eq_ok_iff.mp found).2.2.1
  have located := holds.locate_join (by decide : FileSystem.IsEntryName "missing") short .visit
  rw [FileSystem.place?, pathIn, located] at found
  cases found

theorem missingSourceIsFatal_passes (holds : fs.Holds names []) :
    (missingSourceIsFatal.check fs.view (Location.text names)).result = .ok () := by
  have spelled := holds.stands.isSpelled
  refine expectFailure_eq_ok_iff.mpr fun found success => ?_
  obtain ⟨part, expanded⟩ := exists_expand_of_refined spelled success (.tail _ (.head _))
  obtain ⟨bytes, read⟩ := Sources.exists_read_of_expand (by decide) expanded
  have entryName : FileSystem.IsEntryName "UnifiedSource1.cpp" := by decide
  obtain ⟨failure, unread⟩ := exists_read_eq_error spelled entryName holds rfl
  cases read.symm.trans unread

end Others

/-! ## What each test comes to -/

section Outcomes

variable {fs : FileSystem} {names : Location} {test : SelfTest}

/-- A test whose sources are all put into the root refines there, and finds what it expects. -/
theorem outcome_of_fits (fresh : fs.FreshRoot names) (known : test ∈ all)
    (fits : test.Fits (Location.text names)) :
    (test.outcome fs (Location.text names)).result = .ok () := by
  obtain ⟨prepared, written, holds⟩ :=
    exists_put_eq_ok fresh.holds (isEntryName_of_mem known) fits
  rw [List.append_nil] at holds
  rw [outcome, Outcome.result_bind_eq_ok_iff]
  refine ⟨prepared, written, ?_⟩
  simp only [all, List.mem_cons, List.not_mem_nil, or_false] at known
  rcases known with rfl | rfl | rfl | rfl | rfl | rfl | rfl | rfl
  · exact passesThrough_passes holds
  · exact isExpanded_passes holds fits
  · exact commentIsExpanded_passes holds fits
  · exact nestedIsExpanded_passes holds fits
  · exact noneSurvives_passes holds fits
  · exact isIdempotent_passes holds fits
  · exact missingRootIsFatal_passes holds
  · exact missingSourceIsFatal_passes holds

/-- A test ends with the first source whose path is too long. The sources in front of it were put
into the root, but none of them is read. -/
theorem outcome_of_not_fits (fresh : fs.FreshRoot names) (known : test ∈ all)
    (unfit : ¬ test.Fits (Location.text names)) :
    test.outcome fs (Location.text names) = .fail (.of (.io .nameTooLong)) := by
  have long : ∃ source ∈ test.sources,
      longestPath < (pathIn (Location.text names) source.1).utf8ByteSize := by
    simpa [Fits] using unfit
  rw [outcome, foldlM_put_of_long fresh.holds (isEntryName_of_mem known) long]
  rfl

theorem outcome_eq_ok_iff (fresh : fs.FreshRoot names) (known : test ∈ all) :
    (test.outcome fs (Location.text names)).result = .ok () ↔ test.Fits (Location.text names) := by
  refine ⟨fun passes => ?_, outcome_of_fits fresh known⟩
  by_contra unfit
  rw [outcome_of_not_fits fresh known unfit] at passes
  cases passes

end Outcomes

/-! ## The lines of a test -/

section Lines

open Outcome

variable {view : View} {root finding : String} {entries expected : List Entry}

theorem logsOnly_ensure {condition : Bool} : (ensure condition finding).LogsOnly .expansion := by
  rw [ensure]
  split
  · exact logsOnly_pure _
  · exact logsOnly_fail _

theorem logsOnly_refined : (refined view root entries).LogsOnly .expansion :=
  (view.logsOnly_refine root entries).bind fun _ => logsOnly_pure _

theorem logsOnly_expect : (expect view root entries expected).LogsOnly .expansion :=
  logsOnly_refined.bind fun _ => logsOnly_ensure

theorem logsOnly_expectFailure : (expectFailure view root entries finding).LogsOnly .expansion := by
  have logs := view.logsOnly_refine root entries
  rw [expectFailure]
  split
  · exact logs
  · exact logs

theorem logsOnly_noneSurvives : (noneSurvives.check view root).LogsOnly .expansion := by
  refine logsOnly_refined.bind fun found => logsOnly_ensure.bind fun _ => ?_
  cases found.find? (·.isUnified) with
  | some entry =>
    cases found.find? (!Path.isAbsolute ·.file) with
    | some other => exact (logsOnly_fail _).bind fun _ => logsOnly_fail _
    | none => exact (logsOnly_fail _).bind fun _ => logsOnly_pure _
  | none =>
    cases found.find? (!Path.isAbsolute ·.file) with
    | some other => exact logsOnly_fail _
    | none => exact logsOnly_pure _

/-- A test has no line of its own before its verdict. -/
theorem logsOnly_check {test : SelfTest} (known : test ∈ all) :
    (test.check view root).LogsOnly .expansion := by
  simp only [all, List.mem_cons, List.not_mem_nil, or_false] at known
  rcases known with rfl | rfl | rfl | rfl | rfl | rfl | rfl | rfl
  · exact logsOnly_expect
  · exact logsOnly_expect
  · exact logsOnly_expect
  · exact logsOnly_expect
  · exact logsOnly_noneSurvives
  · exact logsOnly_refined.bind fun _ => logsOnly_refined.bind fun _ => logsOnly_ensure
  · exact logsOnly_expectFailure
  · exact logsOnly_expectFailure

def passLine (test : SelfTest) : LogLine :=
  ⟨.info, .selfTest, "[PASS] " ++ test.name⟩

/-- What a test that passes logs, apart from the lines of its refinements. -/
theorem filter_log_run {fs : FileSystem} {test : SelfTest} (known : test ∈ all)
    (passes : (test.run fs root).2 = true) :
    (test.run fs root).1.filter (·.part != .expansion) = [test.passLine] := by
  have logs : (test.outcome (fs.makeDirectories root) root).LogsOnly .expansion :=
    (logsOnly_ofExcept _).bind fun _ => logsOnly_check known
  rw [run] at passes ⊢
  generalize test.outcome (fs.makeDirectories root) root = outcome at logs passes
  have quiet : outcome.log.filter (·.part != .expansion) = [] :=
    List.filter_eq_nil_iff.mpr fun line member => by simp [logs line member]
  obtain ⟨log, result⟩ := outcome
  cases result with
  | error failure => cases passes
  | ok value =>
    show (log ++ [_]).filter _ = _
    rw [List.filter_append, quiet]
    rfl

end Lines

/-! ## Running all tests -/

section All

variable {fs : FileSystem} {root : Nat → String}

theorem index_lt_of_mem {test : SelfTest × Nat} (member : test ∈ all.zipIdx) :
    test.2 < all.length := by
  simpa using List.snd_lt_of_mem_zipIdx member

theorem run_passes_iff {test : SelfTest} {root : String} :
    (test.run fs root).2 = true ↔
      (test.outcome (fs.makeDirectories root) root).result = .ok () := by
  rw [run]
  cases (test.outcome (fs.makeDirectories root) root).result <;> simp

theorem countP_failed_eq_zero_iff :
    (all.zipIdx.map fun test => test.1.run fs (root test.2)).countP (!·.2) = 0 ↔
      ∀ test ∈ all.zipIdx, (test.1.run fs (root test.2)).2 = true := by
  simp only [List.countP_eq_zero, List.forall_mem_map, Bool.not_eq_true', Bool.not_eq_false]

theorem runAll_eq_ok_iff :
    (runAll fs root).result = .ok () ↔
      ∀ test ∈ all.zipIdx, (test.1.run fs (root test.2)).2 = true := by
  have concluded : ∀ failed, (conclude failed).result = .ok () ↔ failed = 0 := by
    intro failed
    rw [conclude]
    split <;> simp_all
  exact (concluded _).trans countP_failed_eq_zero_iff

theorem filter_log_runAll (passes : ∀ test ∈ all.zipIdx, (test.1.run fs (root test.2)).2 = true) :
    (runAll fs root).log.filter (·.part != .expansion) =
      all.map passLine ++ [⟨.info, .selfTest, "All 8 self-tests passed"⟩] := by
  have each : ∀ test ∈ all.zipIdx,
      (test.1.run fs (root test.2)).1.filter (·.part != .expansion) = [test.1.passLine] :=
    fun test member => filter_log_run (List.fst_mem_of_mem_zipIdx member) (passes test member)
  rw [runAll]
  simp only [countP_failed_eq_zero_iff.mpr passes, List.filter_append, List.filter_flatMap,
    List.flatMap_map]
  rw [List.flatMap_congr each]
  rfl

/-- In a fresh root, a test succeeds exactly when the system takes the paths of all sources that the
test puts there. Otherwise the test ends when it writes the first source whose path is too long: it
has logged nothing then, and its failure is the reason that the system gives.

All tests together run each in a directory of its own, whatever its path is. They succeed exactly
when the paths of all sources are taken in the directories in which they are put. Then they log one
line for each test, in the order of the tests, and one line at the end. All other lines come from
the refinements that the tests make. -/
theorem passes_in_fresh_roots (fs : FileSystem) :
    (∀ names, fs.FreshRoot names → ∀ test ∈ all,
      ((test.outcome fs (Location.text names)).result = .ok () ↔
        test.Fits (Location.text names)) ∧
      (¬ test.Fits (Location.text names) →
        test.outcome fs (Location.text names) = .fail (.of (.io .nameTooLong)))) ∧
    ∀ location : Nat → Location,
      (∀ index < all.length,
        (fs.makeDirectories (Location.text (location index))).FreshRoot (location index)) →
      ((runAll fs fun index => Location.text (location index)).result = .ok () ↔
        ∀ test ∈ all.zipIdx, test.1.Fits (Location.text (location test.2))) ∧
      ((∀ test ∈ all.zipIdx, test.1.Fits (Location.text (location test.2))) →
        (runAll fs fun index => Location.text (location index)).log.filter
            (·.part != .expansion) =
          (all.map fun test => ⟨.info, .selfTest, "[PASS] " ++ test.name⟩) ++
            [⟨.info, .selfTest, "All 8 self-tests passed"⟩]) := by
  refine ⟨fun names fresh test known => ?_, fun location fresh => ?_⟩
  · exact ⟨outcome_eq_ok_iff fresh known, outcome_of_not_fits fresh known⟩
  · have each : ∀ test ∈ all.zipIdx,
        ((test.1.run fs (Location.text (location test.2))).2 = true ↔
          test.1.Fits (Location.text (location test.2))) := by
      intro test member
      have known := List.fst_mem_of_mem_zipIdx member
      exact run_passes_iff.trans (outcome_eq_ok_iff (fresh test.2 (index_lt_of_mem member)) known)
    refine ⟨runAll_eq_ok_iff.trans (forall₂_congr each), fun fits => ?_⟩
    exact filter_log_runAll fun test member => (each test member).mpr (fits test member)

end All

/-- A root whose path leaves room for the longest source has room for all of them. -/
theorem fits_of_short {root : String} (short : root.utf8ByteSize + 25 ≤ longestPath)
    {test : SelfTest} (known : test ∈ all) : test.Fits root := by
  have names : ∀ test ∈ all, ∀ source ∈ test.sources, source.1.utf8ByteSize ≤ 24 := by decide
  intro source member
  have name := names test known source member
  exact (Path.utf8ByteSize_join_le root source.1).trans (by omega)

def repeated (count : Nat) : String :=
  String.ofList (List.replicate count 'a')

theorem utf8ByteSize_repeated (count : Nat) : (repeated count).utf8ByteSize = count := by
  induction count with
  | zero => rfl
  | succ count ih =>
    have letter : 'a'.utf8Size = 1 := by decide
    rw [repeated, List.replicate_succ, String.ofList_cons, String.utf8ByteSize_append, ← repeated,
      ih, String.utf8ByteSize_singleton, letter, Nat.add_comm]

theorem isEntryName_repeated {count : Nat} (filled : 0 < count) (short : count ≤ longestName) :
    FileSystem.IsEntryName (repeated count) := by
  have letters : ∀ letter, letter ∈ (repeated count).toList ↔ letter = 'a' := by
    intro letter
    simp [repeated, List.mem_replicate, Nat.pos_iff_ne_zero.mp filled]
  have other : ∀ piece : String, 'a' ∉ piece.toList → repeated count ≠ piece := by
    rintro piece absent rfl
    exact absent ((letters 'a').mpr rfl)
  refine ⟨?_, fun slash => ?_, fun nul => ?_, by rwa [utf8ByteSize_repeated]⟩
  · simp [Path.isName, Path.isIdle, other "" (by decide), other "." (by decide),
      other ".." (by decide)]
  · exact absurd ((letters _).mp slash) (by decide)
  · exact absurd ((letters _).mp nul) (by decide)

/-- A directory for each test, by its place in the list. -/
def temporary (index : Nat) : Location :=
  ["tmp", repeated (index + 1)]

/-- The tests pass in an empty directory, and in roots of different names that are made there. -/
theorem passes_below_tmp :
    (FileSystem.wayTo ["tmp"]).FreshRoot ["tmp"] ∧
    (∀ test ∈ all, (test.outcome (.wayTo ["tmp"]) (Location.text ["tmp"])).result = .ok ()) ∧
    (runAll (.wayTo ["tmp"]) fun index => Location.text (temporary index)).result = .ok () ∧
    (runAll (.wayTo ["tmp"]) fun index => Location.text (temporary index)).log.filter
        (·.part != .expansion) =
      (all.map fun test => ⟨.info, .selfTest, "[PASS] " ++ test.name⟩) ++
        [⟨.info, .selfTest, "All 8 self-tests passed"⟩] := by
  have entryName : FileSystem.IsEntryName "tmp" := by decide
  have stands : (FileSystem.wayTo ["tmp"]).Stands ["tmp"] :=
    FileSystem.stands_wayTo (by simpa using entryName)
  have fresh : (FileSystem.wayTo ["tmp"]).FreshRoot ["tmp"] :=
    stands.freshRoot (by decide) fun name => FileSystem.node?_wayTo_below ["tmp"] name []
  have room : ∀ index < all.length,
      (Location.text (temporary index)).utf8ByteSize + 25 ≤ longestPath := by
    intro index early
    have few : all.length = 8 := rfl
    have tmp : "tmp".utf8ByteSize = 3 := by decide
    simp only [temporary, Location.utf8ByteSize_text (List.cons_ne_nil _ _), List.map_cons,
      List.map_nil, List.sum_cons, List.sum_nil, utf8ByteSize_repeated, tmp, longestPath]
    omega
  have made : ∀ index < all.length, ((FileSystem.wayTo ["tmp"]).makeDirectories
      (Location.text (temporary index))).FreshRoot (temporary index) := by
    intro index early
    have few : all.length = 8 := rfl
    have entryName : FileSystem.IsEntryName (repeated (index + 1)) :=
      isEntryName_repeated index.succ_pos (by rw [longestName]; omega)
    exact stands.freshRoot_makeDirectories entryName (FileSystem.node?_wayTo_below ["tmp"] _ [])
      (fun other => FileSystem.node?_wayTo_below ["tmp"] _ [other])
      (Nat.le_of_add_right_le (room index early))
  have fits : ∀ test ∈ all.zipIdx, test.1.Fits (Location.text (temporary test.2)) := by
    intro test member
    have early := room test.2 (index_lt_of_mem member)
    exact fits_of_short early (List.fst_mem_of_mem_zipIdx member)
  obtain ⟨alone, together⟩ := passes_in_fresh_roots (.wayTo ["tmp"])
  obtain ⟨succeeds, logs⟩ := together temporary made
  refine ⟨fresh, fun test known => ?_, succeeds.mpr fits, logs fits⟩
  exact (alone ["tmp"] fresh test known).1.mpr (fits_of_short (by decide) known)

/-- Sixteen directories inside each other, all with long names. -/
def deep : Location :=
  List.replicate 16 (repeated 254)

theorem deep_ne_nil : deep ≠ [] :=
  List.cons_ne_nil _ _

theorem deep_size : (Location.text deep).utf8ByteSize = 4080 := by
  rw [Location.utf8ByteSize_text deep_ne_nil, deep, List.map_replicate, utf8ByteSize_repeated]
  rfl

/-- The system takes the path of a deep root, but not the paths of sources in it. A test fails there
as soon as it writes the first one. -/
theorem deep_root_fails :
    (FileSystem.wayTo deep).FreshRoot deep ∧ isExpanded ∈ all ∧
      isExpanded.outcome (.wayTo deep) (Location.text deep) = .fail (.of (.io .nameTooLong)) ∧
      isExpanded.verdict (.error (.of (.io .nameTooLong))) =
        ⟨.error, .selfTest,
          "[FAIL] unified source is expanded: File name too long (os error 36)"⟩ := by
  have entryName : FileSystem.IsEntryName (repeated 254) :=
    isEntryName_repeated (by decide) (by decide)
  have stands : (FileSystem.wayTo deep).Stands deep :=
    FileSystem.stands_wayTo fun name member => by rwa [List.eq_of_mem_replicate member]
  have fresh : (FileSystem.wayTo deep).FreshRoot deep :=
    stands.freshRoot (by rw [deep_size]; decide) fun name =>
      FileSystem.node?_wayTo_below deep name []
  have known : isExpanded ∈ all := .tail _ (.head _)
  have first : ∀ root, isExpanded.Fits root →
      (pathIn root "UnifiedSource1.cpp").utf8ByteSize ≤ longestPath := by
    intro root fits
    exact fits ("UnifiedSource1.cpp", "#include \"x.cpp\"\n#include \"y.cpp\"\n") (.head _)
  have size : (pathIn (Location.text deep) "UnifiedSource1.cpp").utf8ByteSize = 4080 + 19 := by
    rw [pathIn, Location.join_text stands.isSpelled (by decide),
      Location.utf8ByteSize_text (List.append_ne_nil_of_left_ne_nil deep_ne_nil _),
      List.map_append, List.sum_append, ← Location.utf8ByteSize_text deep_ne_nil, deep_size]
    rfl
  have unfit : ¬ isExpanded.Fits (Location.text deep) := by
    intro fits
    have short := first _ fits
    rw [size] at short
    exact absurd short (by decide)
  exact ⟨fresh, known, outcome_of_not_fits fresh known unfit, rfl⟩

end SelfTest

end UnityBuild
