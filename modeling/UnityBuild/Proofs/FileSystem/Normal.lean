import Mathlib.Data.List.Infix
import UnityBuild.Proofs.FileSystem.Reaching
import UnityBuild.Proofs.Path.Joining

/-!
# Normal paths on a file system

The names of a directory that exists lead to it from the root, past no link, and the same number of
steps up leads back. So a file is read alike at a normal path and at the absolute path that this one
stands for.
-/

namespace UnityBuild

namespace Path

theorem mem_toList_iff_pieces {letter : Char} (other : letter ≠ '/') (path : String) :
    letter ∈ path.toList ↔ ∃ piece ∈ pieces path, letter ∈ piece.toList := by
  suffices ∀ letters : List Char,
      letter ∈ letters ↔ ∃ part ∈ letters.splitOn '/', letter ∈ part by
    simpa [pieces] using this path.toList
  intro letters
  induction letters with
  | nil => simp
  | cons first rest ih =>
    obtain ⟨part, parts, split⟩ := List.exists_cons_of_ne_nil (List.splitOn_ne_nil '/' rest)
    rw [List.splitOn_cons_eq_if_modifyHead, List.mem_cons, ih, split]
    by_cases slash : first = '/'
    · simp [slash, other]
    · simp [slash, or_assoc]

theorem nul_mem_toList_iff_steps (path : String) :
    '\x00' ∈ path.toList ↔ ∃ step ∈ steps path, '\x00' ∈ step.toList := by
  rw [mem_toList_iff_pieces (by decide)]
  refine exists_congr fun piece => ?_
  rw [steps, List.mem_filter, and_assoc]
  refine and_congr_right fun _ => (and_iff_right_of_imp fun member => ?_).symm
  by_contra idle
  have quiet : piece = "" ∨ piece = "." := by
    simpa [isIdle, or_iff_not_imp_left] using idle
  rcases quiet with rfl | rfl
  · simp at member
  · exact absurd member (by decide)

theorem nul_mem_toList_join {base reference : String}
    (nul : '\x00' ∈ (join base reference).toList) :
    (isAbsolute reference = false ∧ '\x00' ∈ base.toList) ∨ '\x00' ∈ reference.toList := by
  rw [nul_mem_toList_iff_steps, steps_join] at nul
  rw [nul_mem_toList_iff_steps base, nul_mem_toList_iff_steps reference]
  split at nul
  · exact .inr nul
  · rename_i relative
    obtain ⟨step, member, nul⟩ := nul
    rcases List.mem_append.mp member with member | member
    · exact .inl ⟨by simpa using relative, step, member, nul⟩
    · exact .inr ⟨step, member, nul⟩

theorem isAbsolute_of_slashless {path : String} (slashless : '/' ∉ path.toList) :
    isAbsolute path = false :=
  beq_eq_false_iff_ne.mpr fun head => slashless (List.mem_of_head? head)

theorem ne_empty_of_isAbsolute {path : String} (absolute : isAbsolute path = true) : path ≠ "" := by
  rintro rfl
  exact absurd absolute (by decide)

end Path

def Location.up (location : Location) (levels : Nat) : Location :=
  location.take (location.length - levels)

theorem Location.dropLast_up (location : Location) (levels : Nat) :
    (location.up levels).dropLast = location.up (levels + 1) := by
  rw [up, up, List.dropLast_eq_take, List.take_take, List.length_take]
  congr 1
  omega

theorem Location.up_dropLast (location : Location) (levels : Nat) :
    Location.up location.dropLast levels = location.up (levels + 1) := by
  rw [up, up, List.dropLast_eq_take, List.take_take, List.length_take]
  congr 1
  omega

theorem Location.text_eq (location : Location) :
    location.text = NormalPath.text ⟨.root, location⟩ := rfl

namespace NormalPath

theorem foldl_enter_replicate_parent (names : List String) (count : Nat) :
    (List.replicate count "..").foldl enter ⟨.root, names⟩ =
      ⟨.root, Location.up names count⟩ := by
  induction count with
  | zero => simp [Location.up]
  | succ count ih =>
    rw [List.replicate_succ', List.foldl_append, ih, List.foldl_cons, List.foldl_nil, enter_parent]
    rw [← Location.dropLast_up]
    cases Location.up names count <;> rfl

theorem mem_names_leave {path : NormalPath} {name : String} (member : name ∈ path.leave.names) :
    name ∈ path.names := by
  obtain ⟨anchor, names⟩ := path
  cases names with
  | nil => cases anchor <;> exact member
  | cons first rest => exact (List.dropLast_sublist _).subset member

theorem mem_names_foldl_enter {pieces : List String} {first : NormalPath} {name : String}
    (member : name ∈ (pieces.foldl enter first).names) : name ∈ first.names ∨ name ∈ pieces := by
  induction pieces generalizing first with
  | nil => exact .inl member
  | cons piece rest ih =>
    rcases ih member with member | member
    · unfold enter at member
      split at member
      · exact .inl member
      · split at member
        · exact .inl (mem_names_leave member)
        · simpa [or_assoc] using Or.inl (List.mem_append.mp member)
    · exact .inr (List.mem_cons_of_mem _ member)

theorem nul_mem_toList_of_ofText {path : String} {names : List String}
    (normal : ofText path = ⟨.root, names⟩) (nul : '\x00' ∈ (text ⟨.root, names⟩).toList) :
    '\x00' ∈ path.toList := by
  rw [Path.nul_mem_toList_iff_steps, steps_text_root (normal ▸ isSpelled_ofText path)] at nul
  obtain ⟨name, member, nul⟩ := nul
  have entered : name ∈ ((Path.steps path).foldl enter (start path)).names := by
    rwa [← ofText_eq_foldl_steps, normal]
  exact (Path.nul_mem_toList_iff_steps path).mpr
    ⟨name, (mem_names_foldl_enter entered).resolve_left (by simp [start]), nul⟩

end NormalPath

namespace FileSystem

variable {fs : FileSystem} {location : Location}

/-- A name that can be looked up: it is one piece of a path, it is not too long, and it can be given
to the system. -/
structure IsEntryName (name : String) : Prop where
  isName : Path.isName name = true
  slashless : '/' ∉ name.toList
  nulless : '\x00' ∉ name.toList
  short : name.utf8ByteSize ≤ longestName

instance (name : String) : Decidable (IsEntryName name) :=
  decidable_of_iff (Path.isName name = true ∧ '/' ∉ name.toList ∧ '\x00' ∉ name.toList ∧
      name.utf8ByteSize ≤ longestName)
    ⟨fun ⟨isName, slashless, nulless, short⟩ => ⟨isName, slashless, nulless, short⟩,
      fun ⟨isName, slashless, nulless, short⟩ => ⟨isName, slashless, nulless, short⟩⟩

/-- A location whose names lead from the root through directories. The path that spells these names
passes no link, so a walk along it stays with the location. -/
structure Stands (fs : FileSystem) (location : Location) : Prop where
  names : ∀ name ∈ location, IsEntryName name
  directories : ∀ front, front <+: location → fs.node? front = some .directory

instance (fs : FileSystem) (location : Location) : Decidable (fs.Stands location) :=
  decidable_of_iff ((∀ name ∈ location, IsEntryName name) ∧
      ∀ front ∈ location.inits, fs.node? front = some .directory)
    ⟨fun ⟨names, directories⟩ => ⟨names, fun _ => directories _ ∘ (List.mem_inits _ _).mpr⟩,
      fun ⟨names, directories⟩ => ⟨names, fun _ => directories _ ∘ (List.mem_inits _ _).mp⟩⟩

/-- Unless it was removed, the current directory is where its names lead to. -/
def Grounded (fs : FileSystem) : Prop :=
  fs.here.removed = 0 → fs.Stands fs.here.names

namespace Stands

theorem of_isPrefix {front : Location} (stands : fs.Stands location) (before : front <+: location) :
    fs.Stands front :=
  ⟨fun name member => stands.names name (before.subset member),
    fun first earlier => stands.directories first (earlier.trans before)⟩

theorem isSpelled (stands : fs.Stands location) : (⟨.root, location⟩ : NormalPath).IsSpelled :=
  fun name member => ⟨(stands.names name member).isName, (stands.names name member).slashless⟩

theorem isDirectoryAt (stands : fs.Stands location) :
    fs.isDirectoryAt (.standing location) = true := by
  simp [FileSystem.isDirectoryAt, stands.directories location List.prefix_rfl]

theorem reaches (stands : fs.Stands location) :
    fs.Reaches .root location 0 (.standing location) := by
  induction location using List.reverseRecOn with
  | nil => exact .arrive _
  | append_singleton front name ih =>
    have before := stands.of_isPrefix (List.prefix_append front [name])
    have entryName := stands.names name (by simp)
    have meets : fs.Meets (.standing front) name .directory :=
      ⟨before.isDirectoryAt, entryName.isName, entry?_eq_ok_iff.mpr
        ⟨rfl, entryName.short, stands.directories _ List.prefix_rfl⟩⟩
    exact (ih before).append (.enter meets nofun (.arrive _))

theorem reaches_parents (stands : fs.Stands location) (count : Nat) :
    fs.Reaches (.standing location) (List.replicate count "..") 0
      (.standing (Location.up location count)) := by
  induction count generalizing location with
  | zero =>
    have here : fs.Reaches (.standing location) [] 0 (.standing location) := .arrive _
    simpa [Location.up] using here
  | succ count ih =>
    have above : (Place.standing location).parent = .standing location.dropLast := rfl
    have onward := ih (stands.of_isPrefix (List.dropLast_prefix location))
    rw [Location.up_dropLast, ← above] at onward
    exact .climb stands.isDirectoryAt onward

end Stands

@[simp] theorem isDirectoryAt_root (fs : FileSystem) : fs.isDirectoryAt .root = true := by
  simp [isDirectoryAt, nodeAt?, Place.root]

theorem walk_pieces_text_root {names : List String}
    (spelled : (⟨.root, names⟩ : NormalPath).IsSpelled)
    (links : Nat) :
    fs.walk .visit links .root (Path.pieces (NormalPath.text ⟨.root, names⟩)) =
      fs.walk .visit links .root names := by
  have split : NormalPath.text ⟨.root, names⟩ = "" ++ "/" ++ "/".intercalate names := by
    simp [NormalPath.text]
  have idle : Path.pieces "" = [""] := by decide +kernel
  rw [split, Path.pieces_append_slash, idle, List.singleton_append]
  refine walk_congr ((advance_idle fs.isDirectoryAt_root (by decide)).trans ?_) links
  by_cases empty : names = []
  · rw [empty, String.intercalate_nil, idle]
    exact advance_idle fs.isDirectoryAt_root (by decide)
  · rw [Path.pieces_intercalate empty spelled.slashless]

/-- A walk along a relative normal path is one from the root along the path that it stands for. -/
theorem Stands.walk_text_above (stands : fs.Stands location) {levels : Nat} {names : List String}
    (spelled : (⟨.above levels, names⟩ : NormalPath).IsSpelled)
    (nonempty : NormalPath.text ⟨.above levels, names⟩ ≠ "") (links : Nat) :
    fs.walk .visit links (.standing location)
        (Path.pieces (NormalPath.text ⟨.above levels, names⟩)) =
      fs.walk .visit links .root (Location.up location levels ++ names) := by
  have filled : List.replicate levels ".." ++ names ≠ [] := by
    rintro empty
    exact nonempty (by rw [NormalPath.text, empty, String.intercalate_nil])
  have slashless : ∀ piece ∈ List.replicate levels ".." ++ names, '/' ∉ piece.toList := by
    intro piece member
    rcases List.mem_append.mp member with member | member
    · rw [(List.mem_replicate.mp member).2]
      decide
    · exact spelled.slashless piece member
  have up := (stands.reaches_parents levels).walk_append names (.inl rfl) links
  have above : fs.Stands (Location.up location levels) := stands.of_isPrefix (List.take_prefix _ _)
  have down := above.reaches.walk_append names (.inl rfl) links
  rw [NormalPath.text, Path.pieces_intercalate filled slashless]
  rw [Nat.zero_add] at up down
  rw [up, down]

theorem currentDirectory_eq_ok_iff {directory : String} :
    fs.currentDirectory = .ok directory ↔
      fs.here.removed = 0 ∧ Location.text fs.here.names = directory := by
  rw [currentDirectory]
  split <;> simp_all

theorem locate_of_nul {purpose : Purpose} {path : String} (nul : '\x00' ∈ path.toList) :
    fs.locate purpose path = .failed .nulInPath := by
  rw [locate, if_pos (by simpa using nul)]

theorem locate_eq_walk {purpose : Purpose} {path : String} (nulless : '\x00' ∉ path.toList)
    (nonempty : path ≠ "") (short : path.utf8ByteSize ≤ longestPath) :
    fs.locate purpose path =
      fs.walk purpose mostLinks (origin fs.here path) (Path.pieces path) := by
  rw [locate, if_neg (by simpa using nulless), if_neg (by simpa using nonempty),
    if_neg (Nat.not_lt.mpr short)]

/-- A path leads to a place if it can be looked up and its pieces lead there. -/
theorem place?_eq_ok_iff {path : String} {place : Place} :
    fs.place? path = .ok place ↔
      '\x00' ∉ path.toList ∧ path ≠ "" ∧ path.utf8ByteSize ≤ longestPath ∧
        ∃ used ≤ mostLinks, fs.Reaches (origin fs.here path) (Path.pieces path) used place := by
  have found : fs.place? path = .ok place ↔ fs.locate .visit path = .found place := by
    rw [place?]
    cases fs.locate .visit path <;> simp
  rw [found]
  by_cases nul : '\x00' ∈ path.toList
  · simp [locate_of_nul nul, nul]
  by_cases empty : path = ""
  · simp [locate, empty]
  by_cases long : longestPath < path.utf8ByteSize
  · simp [locate, nul, empty, long, Nat.not_le.mpr long]
  · rw [locate_eq_walk nul empty (Nat.not_lt.mp long), walk_eq_found_iff]
    simp [nul, empty, Nat.not_lt.mp long]

theorem isDirectory_iff {path : String} :
    fs.isDirectory path = true ↔
      ∃ place, fs.place? path = .ok place ∧ fs.isDirectoryAt place = true := by
  rw [isDirectory]
  cases fs.place? path <;> simp

section

variable (stands : fs.Stands location) {levels : Nat} {names : List String}
  (spelled : (⟨.above levels, names⟩ : NormalPath).IsSpelled)

include stands spelled

theorem Stands.isSpelled_up :
    (⟨.root, Location.up location levels ++ names⟩ : NormalPath).IsSpelled := by
  intro name member
  rcases List.mem_append.mp member with member | member
  · exact stands.isSpelled name (List.take_subset _ _ member)
  · exact spelled name member

/-- A directory resolves a relative normal path to names of its own and those of the path. -/
theorem Stands.resolve_text_above :
    resolve (Location.text location) (NormalPath.text ⟨.above levels, names⟩) =
      NormalPath.text ⟨.root, Location.up location levels ++ names⟩ := by
  have named : ∀ name ∈ names, Path.isName name = true := fun name member => (spelled name member).1
  rw [resolve_eq, NormalPath.ofText_join (NormalPath.isAbsolute_text_above spelled),
    Location.text_eq, NormalPath.ofText_text stands.isSpelled, NormalPath.steps_text_above spelled,
    List.foldl_append, NormalPath.foldl_enter_replicate_parent, NormalPath.foldl_enter_names named]

theorem Stands.nul_mem_text_up_iff :
    '\x00' ∈ (NormalPath.text ⟨.root, Location.up location levels ++ names⟩).toList ↔
      '\x00' ∈ (NormalPath.text ⟨.above levels, names⟩).toList := by
  rw [Path.nul_mem_toList_iff_steps, Path.nul_mem_toList_iff_steps,
    NormalPath.steps_text_root (stands.isSpelled_up spelled), NormalPath.steps_text_above spelled]
  have up : '\x00' ∉ "..".toList := by decide
  have nulless : ∀ name ∈ Location.up location levels, '\x00' ∉ name.toList :=
    fun name member => (stands.names name (List.take_subset _ _ member)).nulless
  simp only [List.mem_append, List.mem_replicate, or_and_right, exists_or]
  constructor
  · rintro (⟨name, member, nul⟩ | held)
    · exact absurd nul (nulless name member)
    · exact .inr held
  · rintro (⟨name, ⟨-, rfl⟩, nul⟩ | held)
    · exact absurd nul up
    · exact .inr held

end

/-- A normal path leads to the place that the absolute path leads to which it stands for, if neither
of them is too long. -/
theorem Stands.locate_text_above (stands : fs.Stands fs.here.names) (exist : fs.here.removed = 0)
    {levels : Nat} {names : List String}
    (spelled : (⟨.above levels, names⟩ : NormalPath).IsSpelled)
    (nonempty : NormalPath.text ⟨.above levels, names⟩ ≠ "")
    (short : (NormalPath.text ⟨.above levels, names⟩).utf8ByteSize ≤ longestPath)
    (short' : (NormalPath.text ⟨.root, Location.up fs.here.names levels ++ names⟩).utf8ByteSize ≤
      longestPath) :
    fs.locate .visit (NormalPath.text ⟨.root, Location.up fs.here.names levels ++ names⟩) =
      fs.locate .visit (NormalPath.text ⟨.above levels, names⟩) := by
  have nul := stands.nul_mem_text_up_iff spelled
  by_cases held : '\x00' ∈ (NormalPath.text ⟨.above levels, names⟩).toList
  · rw [locate_of_nul held, locate_of_nul (nul.mpr held)]
  · have here : fs.here = .standing fs.here.names := by
      rw [Place.standing, ← exist]
    have absolute := NormalPath.isAbsolute_text_root (Location.up fs.here.names levels ++ names)
    rw [locate_eq_walk held nonempty short,
      locate_eq_walk (mt nul.mp held) (Path.ne_empty_of_isAbsolute absolute) short', origin, origin,
      if_pos absolute, NormalPath.isAbsolute_text_above spelled, if_neg Bool.false_ne_true,
      walk_pieces_text_root (stands.isSpelled_up spelled), here,
      stands.walk_text_above spelled nonempty]
    rfl

/-- What is read at a normal path is read at the absolute path that it stands for, if neither of
them is too long. -/
theorem Grounded.read_resolve (grounded : fs.Grounded) {directory : String}
    (current : fs.currentDirectory = .ok directory) {path : NormalPath} (spelled : path.IsSpelled)
    (nonempty : path.text ≠ "") (short : path.text.utf8ByteSize ≤ longestPath)
    (short' : (resolve directory path.text).utf8ByteSize ≤ longestPath) :
    fs.read (resolve directory path.text) = fs.read path.text := by
  obtain ⟨anchor, names⟩ := path
  cases anchor with
  | root =>
    rw [resolve_of_isAbsolute (NormalPath.isAbsolute_text_root names),
      NormalPath.ofText_text spelled]
  | above levels =>
    obtain ⟨exist, rfl⟩ := currentDirectory_eq_ok_iff.mp current
    have stands := grounded exist
    rw [stands.resolve_text_above spelled] at short' ⊢
    rw [read, read, place?, place?,
      stands.locate_text_above exist spelled nonempty short short']

end FileSystem

end UnityBuild
