import UnityBuild.Proofs.FileSystem.Following

/-!
# What a write leaves behind

A write walks to the file that a path leads to, or to the place of a new one, and puts the new
content there. No directory and no link is touched by that, so every walk that came to an end takes
the same way afterwards, and one that had found a name missing at that place ends at the new file.
So the path leads to what was written, and every other node is the one it was.
-/

namespace UnityBuild

/-- The end of a walk once there is a file at a location. -/
def Arrival.afterWriting (location : Location) : Arrival → Arrival
  | .missing directory name =>
    if directory.names ++ [name] = location then .found (.standing location)
    else .missing directory name
  | arrival => arrival

namespace FileSystem

variable {fs : FileSystem} {location : Location} {place : Place} {path piece : String}
  {pieces rest : List String} {leg : Leg} {bytes : Bytes}

theorem lookup_filter_of_ne {other : Location} (h : other ≠ location)
    (nodes : List (Location × Node)) :
    (nodes.filter (·.1 != location)).lookup other = nodes.lookup other := by
  induction nodes with
  | nil => rfl
  | cons entry rest ih =>
    obtain ⟨key, node⟩ := entry
    by_cases same : key = location
    · simp [same, ih, List.lookup_cons, beq_false_of_ne h]
    · simp [same, ih, List.lookup_cons]

theorem node?_insert_of_ne (node : Node) {other : Location} (h : other ≠ location) :
    (fs.insert location node).node? other = fs.node? other := by
  simp [node?, insert, List.lookup_cons, beq_false_of_ne h, lookup_filter_of_ne h]

/-- A location, other than the root, where there is a file or nothing. -/
structure Takes (fs : FileSystem) (location : Location) : Prop where
  below_root : location ≠ []
  file_or_none : ∀ node, fs.node? location = some node → ∃ content, node = .file content

namespace Takes

theorem isDirectoryAt_insert (takes : fs.Takes location) (place : Place) :
    (fs.insert location (.file bytes)).isDirectoryAt place = fs.isDirectoryAt place := by
  unfold isDirectoryAt nodeAt?
  split
  · by_cases here : place.names = location
    · rw [here, node?_insert_self fs takes.below_root]
      cases found : fs.node? location with
      | none => rfl
      | some node =>
        obtain ⟨content, rfl⟩ := takes.file_or_none node found
        rfl
    · rw [node?_insert_of_ne _ here]
  · rfl

/-- A look-up that does not come to the new file finds what it did. -/
theorem looksUp_of_ne (takes : fs.Takes location) {found : Option Node}
    (look : fs.LooksUp .create place piece rest found) (h : place.names ++ [piece] ≠ location) :
    (fs.insert location (.file bytes)).LooksUp .create place piece rest found := by
  refine ⟨(takes.isDirectoryAt_insert place).trans look.directory, look.name, look.bare, ?_⟩
  obtain ⟨exist, short, rfl⟩ := entry?_eq_ok_iff.mp look.entry
  exact entry?_eq_ok_iff.mpr ⟨exist, short, node?_insert_of_ne _ h⟩

theorem looksUp_self (takes : fs.Takes location) {found : Option Node}
    (look : fs.LooksUp .create place piece rest found) (h : place.names ++ [piece] = location) :
    (fs.insert location (.file bytes)).LooksUp .create place piece rest (some (.file bytes)) := by
  refine ⟨(takes.isDirectoryAt_insert place).trans look.directory, look.name, look.bare, ?_⟩
  obtain ⟨exist, short, -⟩ := entry?_eq_ok_iff.mp look.entry
  exact entry?_eq_ok_iff.mpr ⟨exist, short, h ▸ node?_insert_self fs takes.below_root _⟩

theorem follows_insert (takes : fs.Takes location)
    (follows : fs.Follows .create place pieces leg) :
    (fs.insert location (.file bytes)).Follows .create place pieces
      (leg.map (.afterWriting location)) := by
  induction follows with
  | arrive place => exact .arrive place
  | stay directory idle _ ih =>
    exact .stay ((takes.isDirectoryAt_insert _).trans directory) idle ih
  | climb directory _ ih => exact .climb ((takes.isDirectoryAt_insert _).trans directory) ih
  | @enter place piece rest leg node look ordinary _ ih =>
    by_cases here : place.names ++ [piece] = location
    · exact .enter (takes.looksUp_self look here) nofun ih
    · exact .enter (takes.looksUp_of_ne look here) ordinary ih
  | @turn place piece rest target look =>
    refine .turn (takes.looksUp_of_ne look ?_)
    -- A link is no file, so none was put in its place.
    intro here
    obtain ⟨-, -, found⟩ := entry?_eq_ok_iff.mp look.entry
    obtain ⟨content, isFile⟩ := takes.file_or_none _ (here ▸ found)
    cases isFile
  | @miss place piece rest look last =>
    simp only [Leg.map, Arrival.afterWriting]
    split
    · rename_i here
      -- A file is created at the last name of a path only.
      obtain rfl : rest = [] := by simpa [last] using look.bare
      exact .enter (takes.looksUp_self look here) nofun (here ▸ .arrive _)
    · exact .miss (takes.looksUp_of_ne look ‹_›) last

theorem locate_insert (takes : fs.Takes location) (reached : (fs.locate .create path).Reached) :
    (fs.insert location (.file bytes)).locate .create path =
      (fs.locate .create path).afterWriting location :=
  locate_of_follows (fun _ _ _ => takes.follows_insert) rfl reached

end Takes

theorem Follows.node?_missing {purpose : Purpose} {directory : Place} {name : String}
    (follows : fs.Follows purpose place pieces (.done (.missing directory name))) :
    fs.node? (directory.names ++ [name]) = none := by
  generalize ends : Leg.done (.missing directory name) = leg at follows
  induction follows with
  | arrive => cases ends
  | stay _ _ _ ih => exact ih ends
  | climb _ _ ih => exact ih ends
  | enter _ _ _ ih => exact ih ends
  | turn => cases ends
  | miss look _ =>
    cases ends
    exact (entry?_eq_ok_iff.mp look.entry).2.2

/-- Anything but a directory stands where it can be found again. -/
theorem eq_standing_of_nodeAt? {node : Node} (h : fs.nodeAt? place = some node)
    (below : node ≠ .directory) :
    place = .standing place.names ∧ fs.node? place.names = some node := by
  obtain ⟨names, removed⟩ := place
  unfold nodeAt? at h
  split at h
  · rename_i stands
    cases stands
    exact ⟨rfl, h⟩
  · cases h
    exact absurd rfl below

/-- A file is written where its name is missing, or where there is one. -/
theorem create_eq_file_iff :
    fs.create path = .ok (.file location) ↔
      (∃ directory name, fs.locate .create path = .missing directory name ∧
        directory.names ++ [name] = location) ∨
      (fs.locate .create path = .found (.standing location) ∧
        ∃ content, fs.node? location = some (.file content)) := by
  unfold create
  cases fs.locate .create path with
  | failed failure => simp
  | missing directory name =>
    constructor
    · intro h
      cases h
      exact .inl ⟨_, _, rfl, rfl⟩
    · rintro (⟨_, _, ⟨⟩, rfl⟩ | ⟨⟨⟩, -⟩)
      rfl
  | found place =>
    simp only [reduceCtorEq, false_and, exists_false, false_or, Arrival.found.injEq]
    constructor
    · intro h
      split at h
      · cases h
      · rename_i content node
        cases h
        obtain ⟨stands, file⟩ := eq_standing_of_nodeAt? node nofun
        exact ⟨stands, content, file⟩
      · cases h
    · rintro ⟨rfl, content, file⟩
      simp only [nodeAt?_standing, file]
      rfl

theorem create_eq_device_iff {kind : Device} :
    fs.create path = .ok (.device kind) ↔
      ∃ place, fs.locate .create path = .found place ∧
        fs.nodeAt? place = some (.device kind) := by
  unfold create
  cases fs.locate .create path with
  | failed failure => simp
  | missing directory name => simp
  | found place =>
    simp only [Arrival.found.injEq, exists_eq_left']
    split <;> simp_all

theorem takes_of_create (h : fs.create path = .ok (.file location)) : fs.Takes location := by
  obtain ⟨directory, name, missing, rfl⟩ | ⟨-, content, file⟩ := create_eq_file_iff.mp h
  · obtain ⟨place, pieces, follows⟩ :=
      exists_follows_of_locate (Arrival.reached_missing _ _) missing
    refine ⟨by simp, fun node there => ?_⟩
    rw [follows.node?_missing] at there
    cases there
  · refine ⟨?_, fun node there => ⟨content, Option.some.inj (there.symm.trans file)⟩⟩
    rintro rfl
    simp at file

/-- One file system is another one after a path was written to: the path leads to a file that holds
what was written and no more, and all other nodes are the same. -/
structure Rewrites (before after : FileSystem) (path : String) (location : Location)
    (bytes : Bytes) : Prop where
  leads : after.place? path = .ok (.standing location)
  holds : after.node? location = some (.file bytes)
  others : ∀ other, other ≠ location → after.node? other = before.node? other
  here : after.here = before.here

namespace Rewrites

variable {after : FileSystem}

theorem read (rewrites : Rewrites fs after path location bytes) : after.read path = .ok bytes := by
  rw [FileSystem.read, rewrites.leads]
  simp only [nodeAt?_standing, rewrites.holds, content]

theorem regular? (rewrites : Rewrites fs after path location bytes) :
    after.regular? path = some bytes := by
  rw [FileSystem.regular?, rewrites.leads]
  simp only [nodeAt?_standing, rewrites.holds]

end Rewrites

/-- A file that was opened to be written is found there, once it has been written. -/
theorem locate_insert_of_create (h : fs.create path = .ok (.file location)) (bytes : Bytes) :
    (fs.insert location (.file bytes)).locate .create path = .found (.standing location) := by
  have takes := takes_of_create h
  have ends : (fs.locate .create path).Reached ∧
      (fs.locate .create path).afterWriting location = .found (.standing location) := by
    obtain ⟨directory, name, missing, here⟩ | ⟨found, -⟩ := create_eq_file_iff.mp h
    · rw [missing]
      exact ⟨Arrival.reached_missing _ _, if_pos here⟩
    · rw [found]
      exact ⟨Arrival.reached_found _, rfl⟩
  exact (takes.locate_insert ends.1).trans ends.2

theorem rewrites_insert (h : fs.create path = .ok (.file location)) (bytes : Bytes) :
    Rewrites fs (fs.insert location (.file bytes)) path location bytes := by
  have after := locate_insert_of_create h bytes
  refine ⟨?_, node?_insert_self fs (takes_of_create h).below_root _,
    fun _ => node?_insert_of_ne _, rfl⟩
  rw [place?, locate_visit (after ▸ Arrival.reached_found _), after]

theorem regular?_of_create_device {kind : Device} (h : fs.create path = .ok (.device kind)) :
    fs.regular? path = none := by
  obtain ⟨place, found, device⟩ := create_eq_device_iff.mp h
  rw [regular?, place?, locate_visit (found ▸ Arrival.reached_found _), found]
  simp only [device]

/-- What a write leaves behind, if its path names a regular file afterwards. -/
theorem rewrites_write {content : Bytes} (written : (fs.write path bytes).1 = .ok ())
    (regular : (fs.write path bytes).2.regular? path = some content) :
    ∃ location, Rewrites fs (fs.write path bytes).2 path location bytes := by
  unfold write at written regular ⊢
  split at written
  · cases written
  · rename_i location created
    exact ⟨location, rewrites_insert created bytes⟩
  · rename_i created
    rw [created] at regular
    cases regular.symm.trans (regular?_of_create_device created)
  · cases written

/-- A file that can be created takes all that is written. -/
theorem write_of_create (h : fs.create path = .ok (.file location)) :
    fs.write path bytes = (.ok (), fs.insert location (.file bytes)) := by
  rw [write, h]

theorem write_of_create_error {failure : IoFailure} (h : fs.create path = .error failure) :
    fs.write path bytes = (.error (.creating failure), fs) := by
  rw [write, h]

end FileSystem

end UnityBuild
