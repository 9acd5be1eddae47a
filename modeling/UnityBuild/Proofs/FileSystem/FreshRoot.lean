import Mathlib.Algebra.GroupWithZero.Nat
import UnityBuild.Proofs.FileSystem.Writing
import UnityBuild.Proofs.Refinement.Root

/-!
# Files in a fresh directory

A path that leads to a directory, past no link, leads through directories. So an empty directory at
such a path takes a file of any name, as long as the system takes the path of the file. What was put
into the directory can be read there, and no other name can.
-/

namespace UnityBuild

theorem Location.isAbsolute_text (names : Location) :
    Path.isAbsolute (Location.text names) = true :=
  NormalPath.isAbsolute_text_root names

/-- A path has a slash in front of each of its names. -/
theorem Location.utf8ByteSize_text {names : Location} (nonempty : names ≠ []) :
    (Location.text names).utf8ByteSize = (names.map fun name => name.utf8ByteSize + 1).sum := by
  have slash : "/".utf8ByteSize = 1 := by decide
  rw [Location.text, String.utf8ByteSize_append, slash]
  induction names with
  | nil => exact absurd rfl nonempty
  | cons name rest ih =>
    by_cases last : rest = []
    · simp [last, Nat.add_comm]
    · rw [String.intercalate_cons_of_ne_nil last, String.utf8ByteSize_append,
        String.utf8ByteSize_append, slash, List.map_cons, List.sum_cons, ← ih last]
      omega

section Text

variable {names : List String} (spelled : (⟨.root, names⟩ : NormalPath).IsSpelled) {name : String}
  (slashless : '/' ∉ name.toList)

include spelled

theorem Location.pieces_text (nonempty : names ≠ []) :
    Path.pieces (Location.text names) = "" :: names := by
  have split : Location.text names = "" ++ "/" ++ "/".intercalate names := by
    simp [Location.text]
  have idle : Path.pieces "" = [""] := by decide +kernel
  rw [split, Path.pieces_append_slash, idle, Path.pieces_intercalate nonempty spelled.slashless]
  rfl

theorem Location.endsWithSlash_text (nonempty : names ≠ []) :
    Path.endsWithSlash (Location.text names) = false := by
  by_contra slash
  obtain ⟨letters, split⟩ := List.getLast?_eq_some_iff.mp
    (beq_iff_eq.mp (Bool.not_eq_false _ ▸ slash))
  obtain ⟨front, whole⟩ : ∃ front, Location.text names = front ++ "/" ++ "" :=
    ⟨String.ofList letters, String.toList_inj.mp (by simpa using split)⟩
  have pieces := Location.pieces_text spelled nonempty
  rw [whole, Path.pieces_append_slash] at pieces
  have last : names.getLast? = some "" := by
    have ends := congrArg List.getLast? pieces
    rw [List.getLast?_cons_of_ne_nil nonempty, List.getLast?_append] at ends
    exact ends.symm
  exact absurd (spelled "" (List.mem_of_getLast? last)).1 (by decide)

include slashless

/-- A name is put behind a path with one slash between the two. -/
theorem Location.join_text :
    Path.join (Location.text names) name = Location.text (names ++ [name]) := by
  have relative := Path.isAbsolute_of_slashless slashless
  rw [Path.join, if_neg (by simp [relative, Location.text])]
  by_cases root : names = []
  · subst root
    rw [if_pos (by decide)]
    simp [Location.text]
  · rw [Location.endsWithSlash_text spelled root, if_neg Bool.false_ne_true]
    simp only [Location.text, String.intercalate_append_of_ne_nil root (List.cons_ne_nil name []),
      String.intercalate_singleton, String.append_assoc]

theorem Location.resolve_text (named : Path.isName name = true) :
    resolve (Location.text names) name = Location.text (names ++ [name]) := by
  rw [resolve_eq, NormalPath.ofText_join (Path.isAbsolute_of_slashless slashless),
    Location.text_eq, NormalPath.ofText_text spelled, Path.steps_of_isName slashless named,
    List.foldl_cons, List.foldl_nil, NormalPath.enter_name named, Location.text_eq]

end Text

namespace FileSystem

variable {fs : FileSystem} {names : Location} {name : String} {start last : Place}
  {pieces : List String} {used : Nat}

theorem Reaches.isDirectoryAt_start (reaches : fs.Reaches start pieces used last)
    (directory : fs.isDirectoryAt last = true) : fs.isDirectoryAt start = true := by
  cases reaches with
  | arrive => exact directory
  | stay here => exact here
  | climb here => exact here
  | enter meets => exact meets.directory
  | turn meets => exact meets.directory

theorem Stands.append_singleton (stands : fs.Stands names) (entryName : IsEntryName name)
    (directory : fs.node? (names ++ [name]) = some .directory) : fs.Stands (names ++ [name]) := by
  refine ⟨List.forall_mem_append.mpr ⟨stands.names, List.forall_mem_singleton.mpr entryName⟩, ?_⟩
  intro front before
  rcases List.prefix_concat_iff.mp before with rfl | before
  · exact directory
  · exact stands.directories front before

/-- Names that lead to a directory past no link lead through directories. -/
theorem Reaches.stands_append {rest : List String} (stands : fs.Stands names)
    (plain : ∀ name ∈ rest, Path.isName name = true ∧ '/' ∉ name.toList ∧ '\x00' ∉ name.toList)
    (linkless : ∀ front, front <+: names ++ rest → ∀ target, fs.node? front ≠ some (.link target))
    (reaches : fs.Reaches (.standing names) rest used last)
    (directory : fs.isDirectoryAt last = true) : fs.Stands (names ++ rest) := by
  induction rest generalizing names used with
  | nil => simpa using stands
  | cons name rest ih =>
    obtain ⟨named, slashless, nulless⟩ := plain name (by simp)
    have split : names ++ name :: rest = (names ++ [name]) ++ rest := by simp
    have next : names ++ [name] <+: names ++ name :: rest := split ▸ List.prefix_append _ _
    cases reaches with
    | stay _ idle => exact absurd idle (by simp [Path.isIdle_of_isName named])
    | climb => exact absurd named (by decide)
    | @enter _ _ _ _ _ node meets _ onward =>
      have short := (entry?_eq_ok_iff.mp meets.entry).2.1
      have inside : fs.node? (names ++ [name]) = some .directory := by
        simpa [isDirectoryAt, Place.standing, nodeAt?] using onward.isDirectoryAt_start directory
      rw [split] at linkless ⊢
      exact ih (stands.append_singleton ⟨named, slashless, nulless, short⟩ inside)
        (fun other member => plain other (by simp [member])) linkless onward
    | turn meets => exact absurd meets.node? (linkless _ next _)

/-- A normal path leads to a directory, past no link, and there is nothing in it. -/
structure FreshRoot (fs : FileSystem) (names : Location) : Prop where
  spelled : (⟨.root, names⟩ : NormalPath).IsSpelled
  directory : fs.isDirectory (Location.text names) = true
  linkless : ∀ front, front <+: names → ∀ target, fs.node? front ≠ some (.link target)
  empty : ∀ name, fs.node? (names ++ [name]) = none

theorem FreshRoot.stands (fresh : fs.FreshRoot names) : fs.Stands names := by
  obtain ⟨place, found, directory⟩ := isDirectory_iff.mp fresh.directory
  obtain ⟨nulless, -, -, used, enough, reaches⟩ := place?_eq_ok_iff.mp found
  have reaches := reaches.filter
  rw [origin, if_pos (Location.isAbsolute_text names), ← Path.steps, Location.text_eq,
    NormalPath.steps_text_root fresh.spelled] at reaches
  rw [Location.text_eq, Path.nul_mem_toList_iff_steps,
    NormalPath.steps_text_root fresh.spelled] at nulless
  have root : fs.Stands [] := ⟨by simp, by simp⟩
  refine reaches.stands_append root (fun name member => ?_) fresh.linkless directory
  obtain ⟨named, slashless⟩ := fresh.spelled name member
  exact ⟨named, slashless, fun nul => nulless ⟨name, member, nul⟩⟩

theorem FreshRoot.short (fresh : fs.FreshRoot names) :
    (Location.text names).utf8ByteSize ≤ longestPath := by
  obtain ⟨place, found, -⟩ := isDirectory_iff.mp fresh.directory
  exact (place?_eq_ok_iff.mp found).2.2.1

theorem nulless_text (entryNames : ∀ name ∈ names, IsEntryName name) :
    '\x00' ∉ (Location.text names).toList := by
  have spelled : (⟨.root, names⟩ : NormalPath).IsSpelled := fun name member =>
    ⟨(entryNames name member).isName, (entryNames name member).slashless⟩
  rw [Location.text_eq, Path.nul_mem_toList_iff_steps, NormalPath.steps_text_root spelled]
  rintro ⟨name, member, nul⟩
  exact (entryNames name member).nulless nul

theorem Stands.nulless_join (stands : fs.Stands names) (entryName : IsEntryName name) :
    '\x00' ∉ (Path.join (Location.text names) name).toList := by
  rw [Location.join_text stands.isSpelled entryName.slashless]
  exact nulless_text (List.forall_mem_append.mpr
    ⟨stands.names, List.forall_mem_singleton.mpr entryName⟩)

/-- A directory is found at its path, unless that is too long. -/
theorem Stands.place?_text (stands : fs.Stands names)
    (short : (Location.text names).utf8ByteSize ≤ longestPath) :
    fs.place? (Location.text names) = .ok (.standing names) := by
  have absolute := Location.isAbsolute_text names
  have walked := stands.reaches.walk_eq_found mostLinks
  rw [← walk_pieces_text_root stands.isSpelled, ← Location.text_eq, Nat.zero_add] at walked
  refine place?_eq_ok_iff.mpr
    ⟨nulless_text stands.names, Path.ne_empty_of_isAbsolute absolute, short, ?_⟩
  rw [origin, if_pos absolute]
  exact walk_eq_found_iff.mp walked

/-- Where a path leads somewhere, the front of it does, too. -/
theorem Reaches.exists_walk_take (reaches : fs.Reaches start pieces used last) {links : Nat}
    (enough : used ≤ links) (count : Nat) :
    ∃ middle, fs.walk .visit links start (pieces.take count) = .found middle := by
  rw [← List.take_append_drop count pieces] at reaches
  obtain ⟨middle, early, late, first, -, rfl⟩ := reaches.exists_middle
  exact ⟨middle, walk_eq_found_iff.mpr ⟨early, by omega, first⟩⟩

/-- An empty directory whose path is not too long is a fresh root. -/
theorem Stands.freshRoot (stands : fs.Stands names)
    (short : (Location.text names).utf8ByteSize ≤ longestPath)
    (empty : ∀ name, fs.node? (names ++ [name]) = none) : fs.FreshRoot names := by
  refine ⟨stands.isSpelled, ?_, fun front before target link => ?_, empty⟩
  · exact isDirectory_iff.mpr ⟨_, stands.place?_text short, stands.isDirectoryAt⟩
  · cases (stands.directories front before).symm.trans link

/-- A node in a directory is not on the way to it. -/
theorem Stands.insert (stands : fs.Stands names) (name : String) (node : Node) :
    (fs.insert (names ++ [name]) node).Stands names := by
  refine ⟨stands.names, fun front before => ?_⟩
  have other : front ≠ names ++ [name] := by
    rintro rfl
    have longer := before.length_le
    rw [List.length_append, List.length_singleton] at longer
    omega
  rw [node?_insert_of_ne _ other]
  exact stands.directories front before

theorem foldl_of_fixed {step : FileSystem → Nat → FileSystem} (counts : List Nat)
    (fixed : ∀ count ∈ counts, step fs count = fs) : counts.foldl step fs = fs := by
  induction counts with
  | nil => rfl
  | cons count rest ih =>
    rw [List.foldl_cons, fixed count (.head _)]
    exact ih fun other member => fixed other (.tail _ member)

/-- A name that is not in the directory is missing there. -/
theorem Stands.walk_missing (stands : fs.Stands names) (entryName : IsEntryName name)
    (missing : fs.node? (names ++ [name]) = none) :
    fs.walk .visit mostLinks (.standing names) [name] = .missing (.standing names) name := by
  have look : fs.LooksUp .visit (.standing names) name [] none :=
    ⟨stands.isDirectoryAt, entryName.isName, rfl,
      entry?_eq_ok_iff.mpr ⟨rfl, entryName.short, missing⟩⟩
  rw [mostLinks, walk, advance_of_looksUp look]
  rfl

theorem Stands.makeDirectories_text (stands : fs.Stands names) (entryName : IsEntryName name)
    (missing : fs.node? (names ++ [name]) = none) :
    fs.makeDirectories (Location.text (names ++ [name])) =
      fs.insert (names ++ [name]) .directory := by
  have spelled := stands.isSpelled.enter entryName.slashless
  rw [NormalPath.enter_name entryName.isName] at spelled
  have pieces : Path.pieces (Location.text (names ++ [name])) = ("" :: names) ++ [name] :=
    Location.pieces_text spelled (by simp)
  have above : fs.Reaches .root ("" :: names) 0 (.standing names) :=
    .stay fs.isDirectoryAt_root (by decide) stands.reaches
  have last : fs.walk .visit mostLinks .root (("" :: names) ++ [name]) =
      .missing (.standing names) name := by
    have onward := above.walk_append [name] (.inl rfl) mostLinks
    rwa [Nat.zero_add, stands.walk_missing entryName missing] at onward
  simp only [makeDirectories, pieces, origin, Location.isAbsolute_text, if_true]
  rw [List.range_succ, List.foldl_append, foldl_of_fixed (List.range _)]
  · rw [List.foldl_cons, List.foldl_nil, List.take_length, last]
    rfl
  · -- The earlier steps stay above the missing name.
    intro count member
    have covered : count ≤ ("" :: names).length := by
      simpa [Nat.lt_succ_iff] using member
    obtain ⟨middle, walked⟩ := above.exists_walk_take (Nat.zero_le mostLinks) count
    rw [List.take_append_of_le_length covered, walked]

/-- A directory that is made below another one is a fresh root. -/
theorem Stands.freshRoot_makeDirectories (stands : fs.Stands names) (entryName : IsEntryName name)
    (missing : fs.node? (names ++ [name]) = none)
    (below : ∀ other, fs.node? (names ++ [name] ++ [other]) = none)
    (short : (Location.text (names ++ [name])).utf8ByteSize ≤ longestPath) :
    (fs.makeDirectories (Location.text (names ++ [name]))).FreshRoot (names ++ [name]) := by
  rw [stands.makeDirectories_text entryName missing]
  have self : (fs.insert (names ++ [name]) .directory).node? (names ++ [name]) = some .directory :=
    node?_insert_self fs (by simp) .directory
  have made := (stands.insert name .directory).append_singleton entryName self
  refine made.freshRoot short fun other => ?_
  rw [node?_insert_of_ne _ (by simp)]
  exact below other

/-! ## Paths that are too long -/

section Long

variable {path : String} (nulless : '\x00' ∉ path.toList)
  (long : longestPath < path.utf8ByteSize)

include nulless long

theorem locate_of_long (fs : FileSystem) (purpose : Purpose) :
    fs.locate purpose path = .failed .nameTooLong := by
  have filled : path ≠ "" := by
    rintro rfl
    exact absurd long (by decide)
  rw [locate, if_neg (by simpa using nulless), if_neg (by simpa using filled), if_pos long]

theorem read_of_long (fs : FileSystem) : fs.read path = .error (.opening .nameTooLong) := by
  rw [read, place?, locate_of_long nulless long]

theorem write_of_long (fs : FileSystem) (bytes : Bytes) :
    fs.write path bytes = (.error (.creating .nameTooLong), fs) := by
  have created : fs.create path = .error .nameTooLong := by
    rw [create, locate_of_long nulless long]
  exact write_of_create_error created

end Long

/-! ## Putting files into a directory -/

/-- A directory that holds these texts under these names, and nothing else. Of two texts with one
name, the first counts. -/
structure Holds (fs : FileSystem) (names : Location) (texts : List (String × String)) : Prop where
  stands : fs.Stands names
  short : (Location.text names).utf8ByteSize ≤ longestPath
  node? : ∀ name, fs.node? (names ++ [name]) =
    (texts.lookup name).map fun text => .file (Utf8.encode text)

theorem FreshRoot.holds (fresh : fs.FreshRoot names) : fs.Holds names [] :=
  ⟨fresh.stands, fresh.short, fresh.empty⟩

namespace Holds

variable {texts : List (String × String)}

theorem place?_text (holds : fs.Holds names texts) :
    fs.place? (Location.text names) = .ok (.standing names) :=
  holds.stands.place?_text holds.short

theorem isDirectory (holds : fs.Holds names texts) :
    fs.isDirectory (Location.text names) = true :=
  isDirectory_iff.mpr ⟨_, holds.place?_text, holds.stands.isDirectoryAt⟩

variable (entryName : IsEntryName name)
  (short : (Path.join (Location.text names) name).utf8ByteSize ≤ longestPath)

include entryName short

theorem locate_join (holds : fs.Holds names texts) (purpose : Purpose) :
    fs.locate purpose (Path.join (Location.text names) name) =
      if (texts.lookup name).isSome then .found (.standing (names ++ [name]))
      else .missing (.standing names) name := by
  obtain ⟨left, -, located⟩ := locate_join_of_place? holds.place?_text entryName short purpose
  have look : fs.LooksUp purpose (.standing names) name []
      ((texts.lookup name).map fun text => .file (Utf8.encode text)) := by
    refine ⟨holds.stands.isDirectoryAt, entryName.isName, by simp, ?_⟩
    exact entry?_eq_ok_iff.mpr ⟨rfl, entryName.short, holds.node? name⟩
  rw [located]
  cases held : texts.lookup name with
  | none =>
    rw [held] at look
    cases left <;> rw [walk, advance_of_looksUp look] <;> rfl
  | some text =>
    rw [held] at look
    cases left <;> rw [walk, advance_of_looksUp look] <;> rfl

/-- What was put under a name is read there, and nothing under any other name. -/
theorem read_join (holds : fs.Holds names texts) :
    fs.read (Path.join (Location.text names) name) =
      match texts.lookup name with
      | some text => .ok (Utf8.encode text)
      | none => .error (.opening .notFound) := by
  rw [read, place?, holds.locate_join entryName short]
  cases held : texts.lookup name with
  | none => rfl
  | some text => simp [held, holds.node?, content]

/-- A text is put into the directory. -/
theorem write_join (holds : fs.Holds names texts) (text : String) :
    ∃ after, fs.write (Path.join (Location.text names) name) (Utf8.encode text) = (.ok (), after) ∧
      after.Holds names ((name, text) :: texts) := by
  have created : fs.create (Path.join (Location.text names) name) =
      .ok (.file (names ++ [name])) := by
    rw [create_eq_file_iff, holds.locate_join entryName short]
    cases held : texts.lookup name with
    | none => exact .inl ⟨_, _, rfl, rfl⟩
    | some text => exact .inr ⟨rfl, _, by rw [holds.node?, held]; rfl⟩
  refine ⟨_, write_of_create created, holds.stands.insert name _, holds.short, fun other => ?_⟩
  by_cases same : other = name
  · subst same
    rw [node?_insert_self fs (by simp), List.lookup_cons_self]
    rfl
  · rw [node?_insert_of_ne _ (by simpa using same), holds.node?, List.lookup_cons,
      beq_false_of_ne same]

end Holds

/-! ## A way to a directory -/

/-- The directories on the way to a location, and nothing else. -/
def wayTo (location : Location) : FileSystem where
  nodes := location.inits.map fun front => (front, .directory)
  here := .root

theorem node?_wayTo (location other : Location) :
    (wayTo location).node? other = if other <+: location then some .directory else none := by
  have held : ∀ fronts : List Location,
      (fronts.map fun front => (front, Node.directory)).lookup other =
        if other ∈ fronts then some .directory else none := by
    intro fronts
    induction fronts with
    | nil => rfl
    | cons front rest ih =>
      by_cases same : other = front
      · simp [same]
      · simp [List.lookup_cons, beq_false_of_ne same, same, ih]
  by_cases root : other = []
  · simp [root]
  · rw [node?, if_neg root, wayTo, held]
    simp only [List.mem_inits]

theorem stands_wayTo (entryNames : ∀ name ∈ names, IsEntryName name) :
    (wayTo names).Stands names :=
  ⟨entryNames, fun front before => by rw [node?_wayTo, if_pos before]⟩

theorem node?_wayTo_below (names : Location) (name : String) (rest : Location) :
    (wayTo names).node? (names ++ name :: rest) = none := by
  rw [node?_wayTo, if_neg]
  intro before
  have longer := before.length_le
  rw [List.length_append, List.length_cons] at longer
  omega

end FileSystem

end UnityBuild
