import UnityBuild.Proofs.Database.Storing
import UnityBuild.Proofs.Refinement.Counts
import UnityBuild.Run

/-!
# What a run does to its files

All that a run reads is read before it writes, so the entries that it writes are those that the
file system called for at the start, whatever file they are written to. A run that gives up before
its output is created has changed nothing, and a run that succeeds has changed the one file that its
output path leads to.
-/

namespace UnityBuild

namespace Run

variable {config : Config} {input : Except ReadFailure Bytes} {view : View} {entries : List Entry}
  {refined : Refined} {failure : Failure}

def beginLine (config : Config) : LogLine := ⟨.info, .program, beginNote config⟩

theorem plan_of_unread (h : Database.ofRead config.input input = .error failure) :
    plan config input view = ⟨[beginLine config], .error failure⟩ := by
  simp [plan, h, bind, Outcome.bind, Outcome.write, Outcome.ofExcept, beginLine]

theorem plan_of_unrefined (read : Database.ofRead config.input input = .ok entries)
    (h : (view.refine config.root entries).result = .error failure) :
    plan config input view =
      ⟨beginLine config :: (view.refine config.root entries).log, .error failure⟩ := by
  simp [plan, read, h, bind, Outcome.bind, Outcome.write, Outcome.ofExcept, beginLine]

theorem plan_of_refined (read : Database.ofRead config.input input = .ok entries)
    (h : (view.refine config.root entries).result = .ok refined) :
    plan config input view =
      ⟨beginLine config :: (view.refine config.root entries).log ++
          [⟨.info, .program, expandedNote refined.summary⟩,
            ⟨.info, .program, countNote refined.summary⟩],
        .ok refined.entries⟩ := by
  simp [plan, read, h, bind, Outcome.bind, Outcome.write, Outcome.ofExcept, beginLine, pure,
    Outcome.pure]

theorem result_conclude (written : Except Failure Unit) :
    (conclude config written).result = written := by
  cases written <;> rfl

end Run

namespace FileSystem

open Run

variable {fs : FileSystem} {config : Config} {entries : List Entry} {refined : Refined}
  {failure : Failure}

/-- Without a database to read, a run fails before it does anything. -/
theorem run_of_unread (h : fs.readDatabase config.input = .error failure) :
    fs.run config = (⟨[beginLine config], .error failure⟩, fs) := by
  simp only [run, plan_of_unread h]

theorem run_of_unrefined (read : fs.readDatabase config.input = .ok entries)
    (h : (fs.view.refine config.root entries).result = .error failure) :
    fs.run config =
      (⟨beginLine config :: (fs.view.refine config.root entries).log, .error failure⟩, fs) := by
  simp only [run, plan_of_unrefined read h]

/-- With a refinement, a run does nothing but write it. What is told about the refinement is logged
before the output is opened. -/
theorem run_of_refined (read : fs.readDatabase config.input = .ok entries)
    (h : (fs.view.refine config.root entries).result = .ok refined) :
    fs.run config =
      (⟨beginLine config :: (fs.view.refine config.root entries).log ++
            [⟨.info, .program, expandedNote refined.summary⟩,
              ⟨.info, .program, countNote refined.summary⟩] ++
          (conclude config (fs.writeDatabase config.output refined.entries).1).log,
        (fs.writeDatabase config.output refined.entries).1⟩,
        (fs.writeDatabase config.output refined.entries).2) := by
  simp only [run, plan_of_refined read h, result_conclude]

/-- A run that succeeds has read, refined and written. The database that it read is the one that
stood at the input path when it began. -/
theorem exists_refined_of_run (h : (fs.run config).1.result = .ok ()) :
    ∃ entries refined, fs.readDatabase config.input = .ok entries ∧
      (fs.view.refine config.root entries).result = .ok refined ∧
      (fs.writeDatabase config.output refined.entries).1 = .ok () := by
  cases read : fs.readDatabase config.input with
  | error failure =>
    rw [run_of_unread read] at h
    cases h
  | ok entries =>
    cases success : (fs.view.refine config.root entries).result with
    | error failure =>
      rw [run_of_unrefined read success] at h
      cases h
    | ok refined =>
      rw [run_of_refined read success] at h
      exact ⟨entries, refined, rfl, success, h⟩

/-- The numbers of entries that a run tells are those of the given and of the refined entries. -/
theorem countNote_of_refine (h : (fs.view.refine config.root entries).result = .ok refined) :
    countNote refined.summary =
      toString entries.length ++ " compile command(s) in, " ++ toString refined.entries.length
        ++ " out" := by
  obtain ⟨-, base, found, all⟩ := View.refine_eq_ok_iff.mp h
  obtain ⟨length, summary⟩ := Sources.counts_of_expandAll (isAbsolute_of_absolute found) all
  have output : refined.summary.output = refined.entries.length := by
    rw [length, summary]
    rfl
  rw [countNote, output, summary]

/-- A run reads everything before it writes. It fails as reading and refining its database do, or as
creating its output does, and changes nothing then. It succeeds if its output can be created as a
file. If it succeeds and its output path names a regular file, that file holds the refinement of
what the file system held at the start, and nothing else has changed. The numbers of entries that
are told are those of the database read at the start and of the one that can be read afterwards. -/
theorem run_reads_then_writes (fs : FileSystem) (config : Config) :
    (∀ failure, fs.readDatabase config.input = .error failure →
      (fs.run config).1.result = .error failure ∧ (fs.run config).2 = fs) ∧
    (∀ entries failure, fs.readDatabase config.input = .ok entries →
      (fs.view.refine config.root entries).result = .error failure →
      (fs.run config).1.result = .error failure ∧ (fs.run config).2 = fs) ∧
    (∀ entries refined failure, fs.readDatabase config.input = .ok entries →
      (fs.view.refine config.root entries).result = .ok refined →
      fs.create config.output = .error failure →
      (fs.run config).1.result = .error ⟨[.createDatabase config.output], .io failure⟩ ∧
        (fs.run config).2 = fs) ∧
    (∀ entries refined location, fs.readDatabase config.input = .ok entries →
      (fs.view.refine config.root entries).result = .ok refined →
      fs.create config.output = .ok (.file location) →
      (fs.run config).1.result = .ok ()) ∧
    (∀ content, (fs.run config).1.result = .ok () →
      (fs.run config).2.regular? config.output = some content →
      ∃ entries refined location written,
        fs.readDatabase config.input = .ok entries ∧
        (fs.view.refine config.root entries).result = .ok refined ∧
        content = Database.render refined.entries ∧
        Rewrites fs (fs.run config).2 config.output location content ∧
        (fs.run config).2.readDatabase config.output = .ok written ∧
        (fs.run config).1.log =
          beginLine config :: (fs.view.refine config.root entries).log ++
            [⟨.info, .program, expandedNote refined.summary⟩,
              ⟨.info, .program, toString entries.length ++ " compile command(s) in, "
                ++ toString written.length ++ " out"⟩,
              ⟨.info, .program, writtenNote config⟩]) := by
  refine ⟨fun failure unread => ?_, fun entries failure read unrefined => ?_,
    fun entries refined failure read success refused => ?_,
    fun entries refined location read success created => ?_, fun content success regular => ?_⟩
  · rw [run_of_unread unread]
    exact ⟨rfl, rfl⟩
  · rw [run_of_unrefined read unrefined]
    exact ⟨rfl, rfl⟩
  · rw [run_of_refined read success, writeDatabase_of_create_error refused]
    exact ⟨rfl, rfl⟩
  · rw [run_of_refined read success, writeDatabase_of_create created]
  · obtain ⟨entries, refined, read, success, stored⟩ := exists_refined_of_run success
    have all := run_of_refined read success
    rw [stored, countNote_of_refine success] at all
    rw [all] at regular ⊢
    obtain ⟨location, rewrites⟩ := rewrites_writeDatabase stored regular
    obtain rfl : content = Database.render refined.entries :=
      Option.some.inj (regular.symm.trans rewrites.regular?)
    refine ⟨entries, refined, location, refined.entries, read, success, rfl, rewrites,
      rewrites.readDatabase, ?_⟩
    rw [List.append_assoc]
    rfl

end FileSystem

/-- A database that is longer before it is refined than afterwards. -/
def FileSystem.roundabout : FileSystem where
  nodes :=
    [(["r"], .directory),
      (["r", "UnifiedSource1.c"], .file (Utf8.encode "#include \"a.c\"\n")),
      (["r", "compile_commands.json"],
        .file (Database.render [⟨"/d", "cc", "././././UnifiedSource1.c"⟩]))]
  here := .standing ["r"]

/-- Without options, a database is refined in place, although the file is shorter afterwards than it
was before. -/
theorem roundabout_run :
    (FileSystem.roundabout.run .standard).1.result = .ok () ∧
      ∃ location, FileSystem.Rewrites FileSystem.roundabout
        (FileSystem.roundabout.run .standard).2 Config.standard.output location
          (Database.render [⟨"/d", "cc", "/r/a.c"⟩]) := by
  have bytes : FileSystem.roundabout.read Config.standard.input =
      .ok (Database.render [⟨"/d", "cc", "././././UnifiedSource1.c"⟩]) := rfl
  have read : FileSystem.roundabout.readDatabase Config.standard.input =
      .ok [⟨"/d", "cc", "././././UnifiedSource1.c"⟩] := by
    simp only [FileSystem.readDatabase, bytes, Database.ofRead, Database.parse_render]
  have found : FileSystem.roundabout.view.absolute Config.standard.root = .ok "/r" := by
    with_unfolding_all rfl
  have path : resolve "/r" "././././UnifiedSource1.c" = "/r/UnifiedSource1.c" := by
    with_unfolding_all rfl
  have replaced : (⟨"/d", "cc", "././././UnifiedSource1.c"⟩ : Entry).forInclude "/r" "a.c" =
      ⟨"/d", "cc", "/r/a.c"⟩ := by with_unfolding_all rfl
  have source : (FileSystem.roundabout.view.read (resolve "/r" "././././UnifiedSource1.c")).map
      namedPaths = .ok ["a.c"] := by
    rw [path]
    rfl
  have plain : ((⟨"/d", "cc", "././././UnifiedSource1.c"⟩ : Entry).forInclude "/r"
      "a.c").isUnified = false := by
    rw [replaced]
    decide
  have unified : (⟨"/d", "cc", "././././UnifiedSource1.c"⟩ : Entry).isUnified = true := rfl
  have directory : FileSystem.roundabout.view.isDirectory Config.standard.root = true := rfl
  have refined := View.refine_of_one_include unified directory found rfl source plain
  rw [replaced] at refined
  have all := FileSystem.run_of_refined read refined
  have created : FileSystem.roundabout.create Config.standard.output =
      .ok (.file ["r", "compile_commands.json"]) := rfl
  have success : (FileSystem.roundabout.run .standard).1.result = .ok () :=
    (FileSystem.run_reads_then_writes FileSystem.roundabout .standard).2.2.2.1 _ _ _ read refined
      created
  have regular : (FileSystem.roundabout.run .standard).2.regular? Config.standard.output =
      some (Database.render [⟨"/d", "cc", "/r/a.c"⟩]) := by
    rw [all, FileSystem.writeDatabase_of_create created]
    exact (FileSystem.rewrites_insert created _).regular?
  obtain ⟨-, -, location, -, -, -, -, rewrites, -, -⟩ :=
    (FileSystem.run_reads_then_writes FileSystem.roundabout .standard).2.2.2.2 _ success regular
  exact ⟨success, location, rewrites⟩

end UnityBuild
