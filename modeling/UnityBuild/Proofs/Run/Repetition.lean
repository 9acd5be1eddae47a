import UnityBuild.Proofs.FileSystem.Overwriting
import UnityBuild.Proofs.Refinement.Idempotence
import UnityBuild.Proofs.Run

/-!
# Running twice in place

A run in place writes a refined database over the one that it has read. If every file of the given
database has a base name, no entry of the refined one is unified, so a second run reads no source
and keeps every entry. It writes the text that is there already, and the file system stays as the
first run has left it.
-/

namespace UnityBuild

theorem Entry.not_isDisguised_of_named {entry : Entry} {base name : String}
    (named : Path.baseName? entry.file = some name) : ¬ entry.IsDisguised base := by
  rintro ⟨unnamed, -⟩
  rw [named] at unnamed
  cases unnamed

namespace Sources

variable {sources : Sources} {base : String} {entries : List Entry}

/-- Plain entries with resolved files are kept, and counted as kept. -/
theorem expandAll_eq_of_plain (absolute : Path.isAbsolute base = true)
    (plain : ∀ entry ∈ entries, entry.isUnified = false)
    (resolved : ∀ entry ∈ entries, entry.resolved base = entry) :
    (sources.expandAll base entries).result =
      .ok ⟨entries, ⟨entries.length, 0, entries.length, 0⟩⟩ := by
  have kept : (sources.expandAll base entries).result.map Refined.entries = .ok entries :=
    expandAll_of_plain plain resolved
  cases all : (sources.expandAll base entries).result with
  | error failure =>
    rw [all] at kept
    cases kept
  | ok again =>
    obtain ⟨again, summary⟩ := again
    rw [all] at kept
    obtain rfl : again = entries := Except.ok.inj kept
    obtain ⟨-, counted⟩ := counts_of_expandAll absolute all
    have unified : again.filter (·.isUnified) = [] :=
      List.filter_eq_nil_iff.mpr fun entry member => by simp [plain entry member]
    have others : again.filter (!·.isUnified) = again :=
      List.filter_eq_self.mpr fun entry member => by simp [plain entry member]
    rw [leafCountAll, unified, others] at counted
    rw [show summary = ⟨again.length, 0, again.length, 0⟩ from counted]

end Sources

theorem Run.expandedNote_of_kept (count : Nat) :
    expandedNote ⟨count, 0, count, 0⟩ =
      "Expanded 0 unified source(s) into 0 compile command(s)" := by
  change "Expanded " ++ toString 0 ++ " unified source(s) into " ++ toString 0
    ++ " compile command(s)" = _
  decide

namespace FileSystem

open Run

variable {fs : FileSystem} {config : Config} {location : Location} {root : String}
  {entries : List Entry} {refined : Refined} {bytes : Bytes}

/-- With a file written somewhere, a refined database is still refined into itself. -/
theorem Takes.refine_insert (takes : fs.Takes location)
    (h : (fs.view.refine root entries).result = .ok refined)
    (named : ∀ entry ∈ entries, ∃ name, Path.baseName? entry.file = some name) :
    ((fs.insert location (.file bytes)).view.refine root refined.entries).result =
      .ok ⟨refined.entries, ⟨refined.entries.length, 0, refined.entries.length, 0⟩⟩ := by
  obtain ⟨directory, base, found, all⟩ := View.refine_eq_ok_iff.mp h
  have absolute := isAbsolute_of_absolute found
  have plain : ∀ made ∈ refined.entries, made.isUnified = false := by
    apply (Sources.refined_plain_iff absolute all).mpr
    intro entry member
    obtain ⟨name, baseName⟩ := named entry member
    exact Entry.not_isDisguised_of_named baseName
  have directory' : (fs.insert location (.file bytes)).view.isDirectory root = true :=
    takes.isDirectory_insert directory
  -- The current directory is where it was, so the root stands for the same base.
  have found' : (fs.insert location (.file bytes)).view.absolute root = .ok base := found
  rw [View.refine_of_base directory' found']
  exact Sources.expandAll_eq_of_plain absolute plain (Sources.resolved_of_mem_refined absolute all)

/-- A run that succeeds has written its output, if a regular file is there. -/
theorem exists_create_of_run (output : fs.NamesFile config.output location)
    (success : (fs.run config).1.result = .ok ()) :
    ∃ entries refined, fs.readDatabase config.input = .ok entries ∧
      (fs.view.refine config.root entries).result = .ok refined ∧
      fs.create config.output = .ok (.file location) ∧
      (fs.run config).2 = fs.insert location (.file (Database.render refined.entries)) := by
  obtain ⟨entries, refined, read, success, stored⟩ := exists_refined_of_run success
  have written := writeDatabase_eq_ok_iff.mp stored
  have created : fs.create config.output = .ok (.file location) := by
    unfold write at written
    cases target : fs.create config.output with
    | error failure =>
      rw [target] at written
      cases written
    | ok target' =>
      rw [← target]
      exact output.create_eq target
  refine ⟨entries, refined, read, success, created, ?_⟩
  rw [run_of_refined read success, writeDatabase_of_create created]

/-- When the input and the output are one regular file and every entry has a base name, a run that
succeeds can be repeated. The second run changes nothing at all, expands no unified source, and
tells as many entries that go in as come out. -/
theorem run_in_place_stable (input : fs.NamesFile config.input location)
    (output : fs.NamesFile config.output location)
    (read : fs.readDatabase config.input = .ok entries)
    (named : ∀ entry ∈ entries, ∃ name, Path.baseName? entry.file = some name)
    (success : (fs.run config).1.result = .ok ()) :
    ∃ written, (fs.run config).2.readDatabase config.input = .ok written ∧
      ((fs.run config).2.run config).1.result = .ok () ∧
      ((fs.run config).2.run config).2 = (fs.run config).2 ∧
      ((fs.run config).2.run config).1.log =
        beginLine config :: ((fs.run config).2.view.refine config.root written).log ++
          [⟨.info, .program, "Expanded 0 unified source(s) into 0 compile command(s)"⟩,
            ⟨.info, .program, toString written.length ++ " compile command(s) in, "
              ++ toString written.length ++ " out"⟩,
            ⟨.info, .program, writtenNote config⟩] := by
  obtain ⟨given, refined, read', refinement, created, after⟩ := exists_create_of_run output success
  obtain rfl : entries = given := Except.ok.inj (read.symm.trans read')
  have takes := takes_of_create created
  rw [after]
  generalize stored : fs.insert location (.file (Database.render refined.entries)) = second
  have again : (second.view.refine config.root refined.entries).result =
      .ok ⟨refined.entries, ⟨refined.entries.length, 0, refined.entries.length, 0⟩⟩ := by
    rw [← stored]
    exact takes.refine_insert refinement named
  have reread : second.readDatabase config.input = .ok refined.entries := by
    have holds := node?_insert_self fs takes.below_root (.file (Database.render refined.entries))
    rw [← stored, readDatabase, (input.insert takes _).read_eq holds]
    simp only [Database.ofRead, Database.parse_render]
  have rewritten : second.writeDatabase config.output refined.entries = (.ok (), second) := by
    have created' : second.create config.output = .ok (.file location) := by
      rw [← stored]
      exact create_insert created _
    rw [writeDatabase_of_create created', ← stored, insert_insert]
  have all := run_of_refined reread again
  rw [rewritten, expandedNote_of_kept] at all
  refine ⟨refined.entries, reread, ?_, ?_, ?_⟩
  · rw [all]
  · rw [all]
  · rw [all, List.append_assoc]
    rfl

end FileSystem

/-- A database with a link to it, and a unified source with a file that is no source file. -/
def FileSystem.shortcut : FileSystem where
  nodes :=
    [(["r"], .directory),
      (["r", "db.json"], .link "compile_commands.json"),
      (["r", "UnifiedSource1.c"], .file (Utf8.encode "#include \"notes\"\n")),
      (["r", "compile_commands.json"], .file (Database.render
        [⟨"/d", "cc", "x/../UnifiedSource1.c/."⟩, ⟨"/d", "cc", "b.c"⟩]))]
  here := .standing ["r"]

theorem shortcut_refine :
    (FileSystem.shortcut.view.refine "." [⟨"/d", "cc", "x/../UnifiedSource1.c/."⟩,
        ⟨"/d", "cc", "b.c"⟩]).result =
      .ok ⟨[⟨"/d", "cc", "/r/notes"⟩, ⟨"/d", "cc", "/r/b.c"⟩], ⟨2, 1, 1, 1⟩⟩ := by
  have absolute : Path.isAbsolute "/r" = true := rfl
  have unified : (⟨"/d", "cc", "x/../UnifiedSource1.c/."⟩ : Entry).isUnified = true := rfl
  have plain : (⟨"/d", "cc", "/r/notes"⟩ : Entry).isUnified = false := rfl
  have path : resolve "/r" "x/../UnifiedSource1.c/." = "/r/UnifiedSource1.c" := by
    with_unfolding_all rfl
  have replaced : (⟨"/d", "cc", "x/../UnifiedSource1.c/."⟩ : Entry).forInclude "/r" "notes" =
      ⟨"/d", "cc", "/r/notes"⟩ := by with_unfolding_all rfl
  have named : (FileSystem.shortcut.view.read (resolve "/r" "x/../UnifiedSource1.c/.")).map
      namedPaths = .ok ["notes"] := by
    rw [path]
    rfl
  have expanded : (FileSystem.shortcut.view.expand "/r"
      ⟨"/d", "cc", "x/../UnifiedSource1.c/."⟩).result = .ok [⟨"/d", "cc", "/r/notes"⟩] := by
    have yields := Sources.expand_of_plain_includes absolute unified named
      (by simpa [replaced] using plain)
    rwa [List.map_singleton, replaced] at yields
  have kept : (FileSystem.shortcut.view.expand "/r" ⟨"/d", "cc", "b.c"⟩).result =
      .ok [⟨"/d", "cc", "/r/b.c"⟩] := by
    rw [Sources.expand_eq_ok_iff_resolved rfl]
    with_unfolding_all rfl
  refine View.refine_eq_ok_iff.mpr ⟨rfl, "/r", by with_unfolding_all rfl, ?_⟩
  exact Sources.expandAll_eq_ok_iff.mpr ⟨_, .cons expanded (.cons kept .nil), rfl⟩

/-- The input is read through a link and the output is written beside it, both times. -/
theorem shortcut_in_place :
    (FileSystem.shortcut.run ⟨"db.json", ".", "./compile_commands.json"⟩).1.result = .ok () ∧
      ((FileSystem.shortcut.run ⟨"db.json", ".", "./compile_commands.json"⟩).2.run
        ⟨"db.json", ".", "./compile_commands.json"⟩).2 =
      (FileSystem.shortcut.run ⟨"db.json", ".", "./compile_commands.json"⟩).2 := by
  have bytes : FileSystem.shortcut.read "db.json" = .ok (Database.render
      [⟨"/d", "cc", "x/../UnifiedSource1.c/."⟩, ⟨"/d", "cc", "b.c"⟩]) := rfl
  have read : FileSystem.shortcut.readDatabase "db.json" =
      .ok [⟨"/d", "cc", "x/../UnifiedSource1.c/."⟩, ⟨"/d", "cc", "b.c"⟩] := by
    simp only [FileSystem.readDatabase, bytes, Database.ofRead, Database.parse_render]
  have input : FileSystem.shortcut.NamesFile "db.json" ["r", "compile_commands.json"] :=
    ⟨rfl, _, rfl⟩
  have output : FileSystem.shortcut.NamesFile "./compile_commands.json"
      ["r", "compile_commands.json"] := ⟨rfl, _, rfl⟩
  have created : FileSystem.shortcut.create "./compile_commands.json" =
      .ok (.file ["r", "compile_commands.json"]) := rfl
  have named : ∀ entry ∈ [(⟨"/d", "cc", "x/../UnifiedSource1.c/."⟩ : Entry), ⟨"/d", "cc", "b.c"⟩],
      ∃ name, Path.baseName? entry.file = some name := by
    simp only [List.forall_mem_cons, List.not_mem_nil, false_implies, implies_true, and_true]
    exact ⟨⟨"UnifiedSource1.c", rfl⟩, ⟨"b.c", rfl⟩⟩
  have success : (FileSystem.shortcut.run
      ⟨"db.json", ".", "./compile_commands.json"⟩).1.result = .ok () := by
    have all := @FileSystem.run_of_refined FileSystem.shortcut
      ⟨"db.json", ".", "./compile_commands.json"⟩ _ _ read shortcut_refine
    rw [all, FileSystem.writeDatabase_of_create created]
  obtain ⟨-, -, -, unchanged, -⟩ := FileSystem.run_in_place_stable input output read named success
  exact ⟨success, unchanged⟩

end UnityBuild
