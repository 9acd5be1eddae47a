import UnityBuild.Config
import UnityBuild.Proofs.FileSystem.Normal
import UnityBuild.Refinement

/-!
# The indexing root

The root is looked up in the file system, and so is the default output path inside it. References
are resolved against the normal path of the root instead, which takes no notice of links: there, a
step up always takes back the name before it. Behind a link the two can part, because the directory
above the one that the link leads to need not be the one that holds the link. If no step up goes
astray in this way, the root and its normal path are one directory.
-/

namespace UnityBuild

namespace Path

/-- A name read from a base is looked up where the base leads to. A slash at the end of the base is
the one in front of the name. -/
theorem pieces_join_name {base name : String} (nonempty : base ≠ "")
    (slashless : '/' ∉ name.toList) :
    ∃ front, pieces (join base name) = front ++ [name] ∧
      (pieces base = front ∨ pieces base = front ++ [""]) := by
  have alone := pieces_of_slashless slashless
  unfold join
  rw [if_neg (by simp [isAbsolute_of_slashless slashless, nonempty])]
  split
  · rename_i slash
    obtain ⟨letters, split⟩ := List.getLast?_eq_some_iff.mp (beq_iff_eq.mp slash)
    obtain ⟨front, rfl⟩ : ∃ front, base = front ++ "/" :=
      ⟨String.ofList letters, String.toList_inj.mp (by simpa using split)⟩
    refine ⟨pieces front, ?_, .inr ?_⟩
    · rw [pieces_append_slash, alone]
    · have trailing := pieces_append_slash front ""
      rw [String.append_empty] at trailing
      rw [trailing]
      rfl
  · exact ⟨pieces base, by rw [pieces_append_slash, alone], .inl rfl⟩

end Path

namespace FileSystem

variable {fs : FileSystem} {root base : String}

/-- In a directory a name stands for a link, and the directory above the one that the link leads to
is another one. -/
def Astray (fs : FileSystem) (names : List String) (name : String) : Prop :=
  ∃ place target inside, fs.walk .visit mostLinks .root names = .found place ∧
    fs.node? (place.names ++ [name]) = some (.link target) ∧
    fs.walk .visit mostLinks .root (names ++ [name]) = .found inside ∧ inside.parent ≠ place

/-- One of the steps up goes astray: the normal path takes a name back, and the walk comes out of a
link at some other directory. -/
def StepsAstray (fs : FileSystem) (steps : List String) : Prop :=
  ∃ front rest names name, steps = front ++ ".." :: rest ∧
    front.foldl NormalPath.enter ⟨.root, []⟩ = ⟨.root, names ++ [name]⟩ ∧ fs.Astray names name

theorem StepsAstray.append {front : List String} (astray : fs.StepsAstray front)
    (back : List String) : fs.StepsAstray (front ++ back) := by
  obtain ⟨first, rest, names, name, rfl, reached, out⟩ := astray
  exact ⟨first, rest ++ back, names, name, by simp, reached, out⟩

/-- A step up from where names lead to takes the last name back. -/
theorem Reaches.parent_of_concat {names : List String} {name : String} {used : Nat} {last : Place}
    (reaches : fs.Reaches .root (names ++ [name]) used last) (named : Path.isName name = true)
    (enough : used ≤ mostLinks) (straight : ¬ fs.Astray names name) :
    ∃ used' ≤ used, fs.Reaches .root names used' last.parent := by
  obtain ⟨place, early, late, first, second, rfl⟩ := reaches.exists_middle
  suffices back : last.parent = place from ⟨early, Nat.le_add_right _ _, back ▸ first⟩
  cases second with
  | stay _ idle => simp [Path.isIdle_of_isName named] at idle
  | climb => exact absurd named (by decide)
  | enter meets _ onward =>
    cases onward
    rw [Place.parent_standing_append, ← meets.standing]
  | turn meets onward =>
    by_contra other
    refine straight ⟨place, _, last, walk_eq_found_iff.mpr ⟨early, by omega, first⟩, meets.node?,
      walk_eq_found_iff.mpr ⟨_, enough, reaches⟩, other⟩

/-- What steps lead to from the root, the names that are left of them lead to. The induction takes
one more step at the end, and the names before it lead to where the steps before it do. -/
theorem Reaches.normal {steps : List String} {used : Nat} {last : Place}
    (reaches : fs.Reaches .root steps used last) (enough : used ≤ mostLinks)
    (straight : ¬ fs.StepsAstray steps) :
    ∃ names, steps.foldl NormalPath.enter ⟨.root, []⟩ = ⟨.root, names⟩ ∧
      (∀ name ∈ names, Path.isName name = true) ∧
      ∃ used' ≤ used, fs.Reaches .root names used' last := by
  induction steps using List.reverseRecOn generalizing used last with
  | nil => exact ⟨[], rfl, by simp, used, Nat.le_refl used, reaches⟩
  | append_singleton front step ih =>
    obtain ⟨middle, early, late, first, second, rfl⟩ := reaches.exists_middle
    obtain ⟨names, reached, named, used', fewer, way⟩ :=
      ih first (by omega) fun astray => straight (astray.append [step])
    rw [List.foldl_append, reached, List.foldl_cons, List.foldl_nil]
    by_cases idle : Path.isIdle step = true
    · obtain ⟨rfl, rfl⟩ := second.of_idle idle
      exact ⟨names, NormalPath.enter_idle idle _, named, used', fewer, way⟩
    by_cases up : step = ".."
    · subst up
      obtain ⟨rfl, rfl⟩ := second.of_parent
      rw [NormalPath.enter_parent]
      rcases List.eq_nil_or_concat' names with rfl | ⟨above, name, rfl⟩
      · cases way
        exact ⟨[], rfl, named, 0, Nat.zero_le _, .arrive _⟩
      · have out : ¬ fs.Astray above name := fun astray =>
          straight ⟨front, [], above, name, rfl, reached, astray⟩
        obtain ⟨used'', fewer', back⟩ :=
          way.parent_of_concat (named name (by simp)) (by omega) out
        exact ⟨above, NormalPath.leave_append _ _ _,
          fun other member => named other (by simp [member]),
          used'', by omega, back⟩
    · have name : Path.isName step = true := by simp [Path.isName, idle, up]
      refine ⟨names ++ [step], NormalPath.enter_name name _, ?_, used' + late, by omega,
        way.append second⟩
      intro other member
      rcases List.mem_append.mp member with member | member
      · exact named other member
      · rw [List.mem_singleton.mp member]
        exact name

/-- The base of a refinement is the normal path of its root, read from the current directory. -/
theorem base_of_absolute (absolute : fs.view.absolute root = .ok base) :
    base = (NormalPath.ofText (Path.join (Location.text fs.here.names) root)).text ∧
      (Path.isAbsolute root = true ∨ fs.here.removed = 0) := by
  unfold View.absolute absolutePath at absolute
  split at absolute
  · rename_i rooted
    cases absolute
    exact ⟨by rw [Path.join_of_isAbsolute rooted], .inl rooted⟩
  · split at absolute
    · rename_i directory here
      obtain ⟨exist, rfl⟩ := currentDirectory_eq_ok_iff.mp here
      cases absolute
      exact ⟨resolve_eq _ _, .inr exist⟩
    · cases absolute

/-- The way to a path is one from the root, if the current directory is where its names lead to. -/
theorem Grounded.reaches_steps (grounded : fs.Grounded) {path : String}
    (exist : Path.isAbsolute path = true ∨ fs.here.removed = 0) {used : Nat} {place : Place}
    (reaches : fs.Reaches (origin fs.here path) (Path.pieces path) used place) :
    fs.Reaches .root (Path.steps (Path.join (Location.text fs.here.names) path)) used place := by
  have steps : fs.Reaches (origin fs.here path) (Path.steps path) used place := reaches.filter
  rw [Path.steps_join]
  split
  · rename_i rooted
    rwa [origin, if_pos rooted] at steps
  · rename_i relative
    have stands := grounded (exist.resolve_left relative)
    have here : fs.here = .standing fs.here.names := by
      rw [Place.standing, ← exist.resolve_left relative]
    rw [origin, if_neg relative, here] at steps
    rw [Location.text_eq, NormalPath.steps_text_root stands.isSpelled]
    simpa using stands.reaches.append steps

/-- No name of the current directory holds a letter that a path may not hold. -/
theorem Grounded.nul_not_mem_join (grounded : fs.Grounded) {path : String}
    (exist : Path.isAbsolute path = true ∨ fs.here.removed = 0) (nulless : '\x00' ∉ path.toList) :
    '\x00' ∉ (Path.join (Location.text fs.here.names) path).toList := by
  intro nul
  rcases Path.nul_mem_toList_join nul with ⟨relative, held⟩ | held
  · have stands := grounded (exist.resolve_left (by simp [relative]))
    rw [Location.text_eq, Path.nul_mem_toList_iff_steps,
      NormalPath.steps_text_root stands.isSpelled] at held
    obtain ⟨name, member, nul⟩ := held
    exact (stands.names name member).nulless nul
  · exact nulless held

/-- A file below the root is looked up in the directory that the root leads to. -/
theorem locate_join_of_place? {place : Place} (found : fs.place? root = .ok place)
    {name : String} (entryName : IsEntryName name)
    (short : (Path.join root name).utf8ByteSize ≤ longestPath) (purpose : Purpose) :
    ∃ left ≤ mostLinks,
      fs.locate purpose (Path.join root name) = fs.walk purpose left place [name] := by
  obtain ⟨nulless, nonempty, -, used, enough, reaches⟩ := place?_eq_ok_iff.mp found
  have named : name ≠ "" := by
    rintro rfl
    exact absurd entryName.isName (by decide)
  obtain ⟨front, split, ends⟩ := Path.pieces_join_name nonempty entryName.slashless
  have way : fs.Reaches (origin fs.here root) front used place := by
    rcases ends with same | trailing
    · rwa [same] at reaches
    · rw [trailing] at reaches
      obtain ⟨middle, early, late, first, second, rfl⟩ := reaches.exists_middle
      obtain ⟨rfl, rfl⟩ := second.of_idle (by decide)
      exact first
  have nulless' : '\x00' ∉ (Path.join root name).toList := fun nul =>
    (Path.nul_mem_toList_join nul).elim (fun held => nulless held.2) entryName.nulless
  have nonempty' : Path.join root name ≠ "" := by
    intro empty
    have last : Path.pieces "" = front ++ [name] := empty ▸ split
    exact named (by simpa [Path.pieces] using (congrArg List.getLast? last).symm)
  obtain ⟨left, total⟩ := Nat.exists_eq_add_of_le enough
  refine ⟨left, by omega, ?_⟩
  rw [locate_eq_walk nulless' nonempty' short, split, origin,
    Path.isAbsolute_join_of_relative (Path.isAbsolute_of_slashless entryName.slashless), ← origin,
    total]
  exact way.walk_append [name] (.inr ⟨name, by simp, named⟩) left

/-- If no step up goes astray, the root leads to a directory which its normal path leads to as well,
and in which the default output is looked up. The system takes no path that is too long, but the
names of the normal path lead to the directory also then. -/
theorem root_eq_base (grounded : fs.Grounded) (directory : fs.isDirectory root = true)
    (absolute : fs.view.absolute root = .ok base)
    (straight : ¬ fs.StepsAstray (Path.steps (Path.join (Location.text fs.here.names) root))) :
    ∃ place, fs.place? root = .ok place ∧ fs.isDirectoryAt place = true ∧
      fs.walk .visit mostLinks .root (Path.pieces base) = .found place ∧
      (base.utf8ByteSize ≤ longestPath → fs.place? base = .ok place) ∧
      ∀ input purpose, (Config.of input root none).output.utf8ByteSize ≤ longestPath →
        ∃ left ≤ mostLinks, fs.locate purpose (Config.of input root none).output =
          fs.walk purpose left place [Config.databaseName] := by
  obtain ⟨place, found, stands⟩ := isDirectory_iff.mp directory
  obtain ⟨rfl, exist⟩ := base_of_absolute absolute
  obtain ⟨nulless, -, -, used, enough, reaches⟩ := place?_eq_ok_iff.mp found
  obtain ⟨names, reached, -, used', fewer, way⟩ :=
    (grounded.reaches_steps exist reaches).normal enough straight
  have rooted := Path.isAbsolute_join (NormalPath.isAbsolute_text_root fs.here.names) root
  rw [← Location.text_eq] at rooted
  have normal : NormalPath.ofText (Path.join (Location.text fs.here.names) root) =
      ⟨.root, names⟩ := by
    rw [NormalPath.ofText_eq_foldl_steps, NormalPath.start, if_pos rooted, reached]
  have walked : fs.walk .visit mostLinks .root (Path.pieces (NormalPath.text ⟨.root, names⟩)) =
      .found place := by
    rw [walk_pieces_text_root (normal ▸ NormalPath.isSpelled_ofText _)]
    exact walk_eq_found_iff.mpr ⟨used', by omega, way⟩
  rw [normal]
  refine ⟨place, found, stands, walked, fun short => ?_, fun input purpose short => ?_⟩
  · have absolute := NormalPath.isAbsolute_text_root names
    have nulless' := mt (NormalPath.nul_mem_toList_of_ofText normal)
      (grounded.nul_not_mem_join exist nulless)
    refine place?_eq_ok_iff.mpr ⟨nulless', Path.ne_empty_of_isAbsolute absolute, short, ?_⟩
    rw [origin, if_pos absolute]
    exact walk_eq_found_iff.mp walked
  · exact locate_join_of_place? found (by decide) short purpose

end FileSystem

/-- A directory with a link to one that lies two levels below. -/
def FileSystem.linked : FileSystem where
  nodes :=
    [(["r"], .directory), (["r", "a"], .directory), (["r", "a", "b"], .directory),
      (["r", "link"], .link "a/b")]
  here := .standing ["r"]

/-- A step up that leaves no link behind is harmless, also on the way to a link. -/
theorem linked_root_eq_base :
    FileSystem.linked.Grounded ∧ FileSystem.linked.isDirectory "a/../link" = true ∧
    FileSystem.linked.view.absolute "a/../link" = .ok "/r/link" ∧
    ∃ place, FileSystem.linked.place? "a/../link" = .ok place ∧
      FileSystem.linked.place? "/r/link" = .ok place := by
  have grounded : FileSystem.linked.Grounded := fun _ => by decide
  have directory : FileSystem.linked.isDirectory "a/../link" = true := by with_unfolding_all rfl
  have absolute : FileSystem.linked.view.absolute "a/../link" = .ok "/r/link" := by
    with_unfolding_all rfl
  have straight : ¬ FileSystem.linked.StepsAstray
      (Path.steps (Path.join (Location.text FileSystem.linked.here.names) "a/../link")) := by
    rw [show Path.steps (Path.join (Location.text FileSystem.linked.here.names) "a/../link") =
      ["r", "a", "..", "link"] by with_unfolding_all rfl]
    rintro ⟨front, rest, names, name, split, reached, place, target, inside, walked, link, -, -⟩
    obtain rfl : front = ["r", "a"] := by
      rcases front with - | ⟨first, - | ⟨second, - | ⟨third, - | ⟨fourth, front⟩⟩⟩⟩ <;> simp_all
    obtain ⟨rfl, rfl⟩ : names = ["r"] ∧ name = "a" := by
      have entered : (⟨.root, ["r"] ++ ["a"]⟩ : NormalPath) = ⟨.root, names ++ [name]⟩ := reached
      simpa [eq_comm] using List.append_inj' (NormalPath.mk.inj entered).2 rfl
    obtain rfl : place = .standing ["r"] := by
      have here : FileSystem.linked.walk .visit mostLinks .root ["r"] =
          .found (.standing ["r"]) := by
        with_unfolding_all rfl
      exact (Arrival.found.inj (here.symm.trans walked)).symm
    have ordinary : FileSystem.linked.node? ["r", "a"] = some .directory := by decide
    cases ordinary.symm.trans link
  obtain ⟨place, found, -, -, same, -⟩ :=
    FileSystem.root_eq_base grounded directory absolute straight
  exact ⟨grounded, directory, absolute, place, found, same (by decide)⟩

/-- A step up behind the link comes out below the directory that the normal path leads to. -/
theorem linked_root_ne_base :
    FileSystem.linked.Grounded ∧ FileSystem.linked.isDirectory "link/.." = true ∧
    FileSystem.linked.view.absolute "link/.." = .ok "/r" ∧
    FileSystem.linked.place? "link/.." = .ok (.standing ["r", "a"]) ∧
    FileSystem.linked.place? "/r" = .ok (.standing ["r"]) :=
  ⟨fun _ => by decide, by with_unfolding_all rfl, by with_unfolding_all rfl,
    by with_unfolding_all rfl, by with_unfolding_all rfl⟩

end UnityBuild
