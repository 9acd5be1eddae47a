import UnityBuild.Proofs.FileSystem.Normal
import UnityBuild.Proofs.FileSystem.Writing

/-!
# Writing over a file

Whatever a path leads to before a file is written, it leads to afterwards. No directory and no link
is touched by a write, so every way through the file system can still be taken. A file that was
written once can be written again through the same path, and only the last content counts.
-/

namespace UnityBuild

namespace FileSystem

variable {fs : FileSystem} {location : Location} {place start last : Place} {path piece : String}
  {pieces : List String} {used : Nat} {node : Node} {bytes : Bytes}

/-- A path leads to a regular file at a location, after all links on the way. Two paths that name
the same location read and write one file. -/
structure NamesFile (fs : FileSystem) (path : String) (location : Location) : Prop where
  leads : fs.place? path = .ok (.standing location)
  holds : ∃ content, fs.node? location = some (.file content)

/-- Only the last node that was put at a location counts. -/
theorem insert_insert (fs : FileSystem) (location : Location) (node node' : Node) :
    (fs.insert location node).insert location node' = fs.insert location node' := by
  simp [insert, List.filter_filter]

namespace Takes

/-- Where a name leads to a node it still does, and to a link if and only if that node is one. -/
theorem exists_meets_insert (takes : fs.Takes location) (meets : fs.Meets place piece node) :
    ∃ node', (fs.insert location (.file bytes)).Meets place piece node' ∧
      ∀ target, node' = .link target ↔ node = .link target := by
  have directory : (fs.insert location (.file bytes)).isDirectoryAt place = true :=
    (takes.isDirectoryAt_insert place).trans meets.directory
  obtain ⟨exist, short, found⟩ := entry?_eq_ok_iff.mp meets.entry
  by_cases here : place.names ++ [piece] = location
  · have self := node?_insert_self fs takes.below_root (.file bytes)
    refine ⟨.file bytes, ⟨directory, meets.name, entry?_eq_ok_iff.mpr ⟨exist, short, ?_⟩⟩, ?_⟩
    · rw [here, self]
    · intro target
      obtain ⟨content, rfl⟩ := takes.file_or_none node (here ▸ found)
      simp
  · refine ⟨node, ⟨directory, meets.name, entry?_eq_ok_iff.mpr ⟨exist, short, ?_⟩⟩, fun _ => .rfl⟩
    rw [node?_insert_of_ne _ here, found]

theorem reaches_insert (takes : fs.Takes location) (reaches : fs.Reaches start pieces used last) :
    (fs.insert location (.file bytes)).Reaches start pieces used last := by
  induction reaches with
  | arrive place => exact .arrive place
  | stay directory idle _ ih =>
    exact .stay ((takes.isDirectoryAt_insert _).trans directory) idle ih
  | climb directory _ ih => exact .climb ((takes.isDirectoryAt_insert _).trans directory) ih
  | enter meets ordinary _ ih =>
    obtain ⟨node', meets', links⟩ := takes.exists_meets_insert meets
    refine .enter meets' ?_ ih
    intro target isLink
    exact ordinary target ((links target).mp isLink)
  | @turn _ _ _ _ _ target meets _ ih =>
    obtain ⟨node', meets', links⟩ := takes.exists_meets_insert meets
    obtain rfl := (links target).mpr rfl
    exact .turn meets' ih

theorem place?_insert (takes : fs.Takes location) (leads : fs.place? path = .ok place) :
    (fs.insert location (.file bytes)).place? path = .ok place := by
  obtain ⟨nulless, filled, short, used, enough, reaches⟩ := place?_eq_ok_iff.mp leads
  apply place?_eq_ok_iff.mpr
  exact ⟨nulless, filled, short, used, enough, takes.reaches_insert reaches⟩

theorem isDirectory_insert (takes : fs.Takes location) (directory : fs.isDirectory path = true) :
    (fs.insert location (.file bytes)).isDirectory path = true := by
  obtain ⟨place, leads, stands⟩ := isDirectory_iff.mp directory
  apply isDirectory_iff.mpr
  exact ⟨place, takes.place?_insert leads, (takes.isDirectoryAt_insert place).trans stands⟩

end Takes

namespace NamesFile

variable (names : fs.NamesFile path location)

include names

/-- A path to a regular file reads what the file holds. -/
theorem read_eq (holds : fs.node? location = some (.file bytes)) : fs.read path = .ok bytes := by
  rw [FileSystem.read, names.leads]
  simp only [nodeAt?_standing, holds, content]

/-- What is opened to be written through a path to a regular file is this file. -/
theorem create_eq {target : Target} (created : fs.create path = .ok target) :
    fs.create path = .ok (.file location) := by
  have leads := names.leads
  obtain ⟨content, holds⟩ := names.holds
  cases target with
  | file other =>
    obtain ⟨directory, name, missing, -⟩ | ⟨found, -⟩ := create_eq_file_iff.mp created
    · rw [place?, locate_visit (missing ▸ Arrival.reached_missing _ _), missing] at leads
      cases leads
    · rw [place?, locate_visit (found ▸ Arrival.reached_found _), found] at leads
      cases leads
      exact created
  | device kind =>
    obtain ⟨place, found, device⟩ := create_eq_device_iff.mp created
    rw [place?, locate_visit (found ▸ Arrival.reached_found _), found] at leads
    cases leads
    rw [nodeAt?_standing, holds] at device
    cases device

/-- Once the file has been written, the path still leads to it. -/
theorem insert (takes : fs.Takes location) (bytes : Bytes) :
    (fs.insert location (.file bytes)).NamesFile path location where
  leads := takes.place?_insert names.leads
  holds := ⟨bytes, node?_insert_self fs takes.below_root _⟩

end NamesFile

/-- A file that was opened to be written can be opened again, once it is there. -/
theorem create_insert (created : fs.create path = .ok (.file location)) (bytes : Bytes) :
    (fs.insert location (.file bytes)).create path = .ok (.file location) := by
  apply create_eq_file_iff.mpr
  refine .inr ⟨locate_insert_of_create created bytes, bytes, ?_⟩
  exact node?_insert_self fs (takes_of_create created).below_root _

end FileSystem

end UnityBuild
