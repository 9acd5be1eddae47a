import UnityBuild.Proofs.FileSystem.Following

/-!
# Where pieces lead

A walk is cut into legs at the links that it passes. For questions about the pieces of a path it is
better to look at the walk as a whole: from one place, some pieces lead to another one, on the way
through a number of links. Such ways can be put together and cut at any piece, and idle pieces can
be left out. The rest of a walk goes on from where its first pieces lead to, with the links that
they left.
-/

namespace UnityBuild

namespace FileSystem

variable {fs : FileSystem} {purpose : Purpose} {place start middle last : Place} {piece : String}
  {rest pieces front back : List String} {used more links : Nat}

/-- In a directory, a name leads to a node. The name is short enough to be looked up, and the
directory was not removed. -/
structure Meets (fs : FileSystem) (place : Place) (piece : String) (node : Node) : Prop where
  directory : fs.isDirectoryAt place = true
  name : Path.isName piece = true
  entry : fs.entry? place piece = .ok (some node)

/-- From one place, pieces lead to another one, through so many links. In contrast to a walk, a way
has no bound on its links and never fails. -/
inductive Reaches (fs : FileSystem) : Place → List String → Nat → Place → Prop
  | arrive (place : Place) : Reaches fs place [] 0 place
  | stay {place last : Place} {piece : String} {rest : List String} {used : Nat}
      (directory : fs.isDirectoryAt place = true) (idle : Path.isIdle piece = true)
      (onward : Reaches fs place rest used last) : Reaches fs place (piece :: rest) used last
  | climb {place last : Place} {rest : List String} {used : Nat}
      (directory : fs.isDirectoryAt place = true)
      (onward : Reaches fs place.parent rest used last) : Reaches fs place (".." :: rest) used last
  | enter {place last : Place} {piece : String} {rest : List String} {used : Nat} {node : Node}
      (meets : fs.Meets place piece node) (ordinary : ∀ target, node ≠ .link target)
      (onward : Reaches fs (.standing (place.names ++ [piece])) rest used last) :
      Reaches fs place (piece :: rest) used last
  | turn {place last : Place} {piece : String} {rest : List String} {used : Nat} {target : String}
      (meets : fs.Meets place piece (.link target))
      (onward : Reaches fs (origin place target) (Path.pieces target ++ rest) used last) :
      Reaches fs place (piece :: rest) (used + 1) last

theorem Meets.looksUp {node : Node} (meets : fs.Meets place piece node)
    (bare : (purpose = .create && rest.all (· == "") && !rest.isEmpty) = false) :
    fs.LooksUp purpose place piece rest (some node) :=
  ⟨meets.directory, meets.name, bare, meets.entry⟩

theorem LooksUp.meets {node : Node} (look : fs.LooksUp purpose place piece rest (some node)) :
    fs.Meets place piece node :=
  ⟨look.directory, look.name, look.entry⟩

theorem Meets.standing {node : Node} (meets : fs.Meets place piece node) :
    place = .standing place.names := by
  obtain ⟨exist, -, -⟩ := entry?_eq_ok_iff.mp meets.entry
  obtain ⟨names, removed⟩ := place
  cases exist
  rfl

theorem Meets.node? {node : Node} (meets : fs.Meets place piece node) :
    fs.node? (place.names ++ [piece]) = some node :=
  (entry?_eq_ok_iff.mp meets.entry).2.2

theorem walk_congr {pieces' : List String} {place' : Place}
    (legs : fs.advance purpose place pieces = fs.advance purpose place' pieces') (links : Nat) :
    fs.walk purpose links place pieces = fs.walk purpose links place' pieces' := by
  cases links with
  | zero => rw [walk, walk, legs]
  | succ links => rw [walk, walk, legs]

theorem walk_of_detour {directory : Place} {target : String}
    (leg : fs.advance purpose place pieces = .detour directory target rest) (links : Nat) :
    fs.walk purpose (links + 1) place pieces =
      fs.walk purpose links (origin directory target) (Path.pieces target ++ rest) := by
  rw [walk, leg]

namespace Reaches

/-- A walk goes on from where its first pieces lead to. Slashes in front of the end are no reason
to stop, if nothing is created or a name follows them. -/
theorem walk_append (reaches : fs.Reaches start front used last) (back : List String)
    (goesOn : purpose = .visit ∨ ∃ piece ∈ back, piece ≠ "") (links : Nat) :
    fs.walk purpose (used + links) start (front ++ back) = fs.walk purpose links last back := by
  have bare : ∀ rest : List String,
      (purpose = .create && (rest ++ back).all (· == "") && !(rest ++ back).isEmpty) = false := by
    intro rest
    rcases goesOn with rfl | ⟨piece, member, named⟩
    · rfl
    · have : (rest ++ back).all (· == "") = false :=
        List.all_eq_false.mpr ⟨piece, List.mem_append_right _ member, by simpa using named⟩
      simp [this]
  induction reaches generalizing links with
  | arrive => rw [Nat.zero_add, List.nil_append]
  | stay directory idle _ ih =>
    rw [← ih]
    exact walk_congr (advance_idle directory idle) _
  | climb directory _ ih =>
    rw [← ih]
    exact walk_congr (advance_parent directory) _
  | @enter _ _ _ _ _ node meets ordinary _ ih =>
    rw [← ih]
    refine walk_congr ((advance_of_looksUp (meets.looksUp (bare _))).trans ?_) _
    cases node with
    | link target => exact absurd rfl (ordinary target)
    | _ => rfl
  | @turn _ _ _ _ used _ meets _ ih =>
    rw [← ih, List.append_assoc, Nat.add_right_comm]
    exact walk_of_detour (advance_of_looksUp (meets.looksUp (bare _))) _

theorem append (first : fs.Reaches start front used middle)
    (second : fs.Reaches middle back more last) :
    fs.Reaches start (front ++ back) (used + more) last := by
  induction first with
  | arrive => simpa using second
  | stay directory idle _ ih => exact .stay directory idle (ih second)
  | climb directory _ ih => exact .climb directory (ih second)
  | enter meets ordinary _ ih => exact .enter meets ordinary (ih second)
  | turn meets _ ih =>
    have onward := ih second
    rw [List.append_assoc] at onward
    rw [Nat.add_right_comm]
    exact .turn meets onward

/-- A way can be cut at any piece. The induction is on the way, and a link on it adds the pieces of
its target to the front. -/
theorem exists_middle (reaches : fs.Reaches start (front ++ back) used last) :
    ∃ middle early late, fs.Reaches start front early middle ∧
      fs.Reaches middle back late last ∧ used = early + late := by
  generalize whole : front ++ back = pieces at reaches
  induction reaches generalizing front with
  | arrive place =>
    obtain ⟨rfl, rfl⟩ := List.append_eq_nil_iff.mp whole
    exact ⟨place, 0, 0, .arrive place, .arrive place, rfl⟩
  | @stay place last piece rest used directory idle onward ih =>
    rcases List.append_eq_cons_iff.mp whole with ⟨rfl, rfl⟩ | ⟨front, rfl, rfl⟩
    · exact ⟨place, 0, used, .arrive place, .stay directory idle onward, (Nat.zero_add _).symm⟩
    · obtain ⟨middle, early, late, first, second, sum⟩ := ih rfl
      exact ⟨middle, early, late, .stay directory idle first, second, sum⟩
  | @climb place last rest used directory onward ih =>
    rcases List.append_eq_cons_iff.mp whole with ⟨rfl, rfl⟩ | ⟨front, rfl, rfl⟩
    · exact ⟨place, 0, used, .arrive place, .climb directory onward, (Nat.zero_add _).symm⟩
    · obtain ⟨middle, early, late, first, second, sum⟩ := ih rfl
      exact ⟨middle, early, late, .climb directory first, second, sum⟩
  | @enter place last piece rest used node meets ordinary onward ih =>
    rcases List.append_eq_cons_iff.mp whole with ⟨rfl, rfl⟩ | ⟨front, rfl, rfl⟩
    · exact ⟨place, 0, used, .arrive place, .enter meets ordinary onward, (Nat.zero_add _).symm⟩
    · obtain ⟨middle, early, late, first, second, sum⟩ := ih rfl
      exact ⟨middle, early, late, .enter meets ordinary first, second, sum⟩
  | @turn place last piece rest used target meets onward ih =>
    rcases List.append_eq_cons_iff.mp whole with ⟨rfl, rfl⟩ | ⟨front, rfl, rfl⟩
    · exact ⟨place, 0, used + 1, .arrive place, .turn meets onward, (Nat.zero_add _).symm⟩
    · obtain ⟨middle, early, late, first, second, rfl⟩ := ih (List.append_assoc _ _ _)
      exact ⟨middle, early + 1, late, .turn meets first, second, Nat.add_right_comm _ _ _⟩

/-- A walk with enough links ends where its pieces lead to. -/
theorem walk_eq_found (reaches : fs.Reaches start pieces used last) (links : Nat) :
    fs.walk .visit (used + links) start pieces = .found last := by
  have ends := reaches.walk_append [] (.inl rfl) links
  rw [List.append_nil] at ends
  rw [ends]
  cases links <;> rfl

/-- Idle pieces can be left out. A link puts the pieces of its target in front of the others, so
the statement is about the back of the pieces only. -/
theorem filter_back (reaches : fs.Reaches start (front ++ back) used last) :
    fs.Reaches start (front ++ back.filter (!Path.isIdle ·)) used last := by
  generalize whole : front ++ back = pieces at reaches
  induction reaches generalizing front back with
  | arrive place =>
    obtain ⟨rfl, rfl⟩ := List.append_eq_nil_iff.mp whole
    exact .arrive place
  | stay directory idle _ ih =>
    rcases List.append_eq_cons_iff.mp whole with ⟨rfl, rfl⟩ | ⟨front, rfl, rfl⟩
    · simpa [idle] using @ih [] _ rfl
    · exact .stay directory idle (ih rfl)
  | climb directory _ ih =>
    rcases List.append_eq_cons_iff.mp whole with ⟨rfl, rfl⟩ | ⟨front, rfl, rfl⟩
    · simpa [Path.isIdle] using climb directory (@ih [] _ rfl)
    · exact .climb directory (ih rfl)
  | enter meets ordinary _ ih =>
    rcases List.append_eq_cons_iff.mp whole with ⟨rfl, rfl⟩ | ⟨front, rfl, rfl⟩
    · simpa [Path.isIdle_of_isName meets.name] using enter meets ordinary (@ih [] _ rfl)
    · exact .enter meets ordinary (ih rfl)
  | turn meets _ ih =>
    rcases List.append_eq_cons_iff.mp whole with ⟨rfl, rfl⟩ | ⟨front, rfl, rfl⟩
    · simpa [Path.isIdle_of_isName meets.name] using turn meets (ih rfl)
    · have onward := ih (List.append_assoc _ _ _)
      rw [List.append_assoc] at onward
      exact .turn meets onward

theorem filter (reaches : fs.Reaches start pieces used last) :
    fs.Reaches start (pieces.filter (!Path.isIdle ·)) used last := by
  have whole : fs.Reaches start ([] ++ pieces) used last := reaches
  exact whole.filter_back

theorem of_idle (reaches : fs.Reaches start [piece] used last) (idle : Path.isIdle piece = true) :
    used = 0 ∧ last = start := by
  have steps := reaches.filter
  rw [List.filter_cons_of_neg (by simp [idle]), List.filter_nil] at steps
  cases steps
  exact ⟨rfl, rfl⟩

theorem of_parent (reaches : fs.Reaches start [".."] used last) :
    used = 0 ∧ last = start.parent := by
  cases reaches with
  | stay _ idle => exact absurd idle (by decide)
  | climb _ onward =>
    cases onward
    exact ⟨rfl, rfl⟩
  | enter meets => exact absurd meets.name (by decide)
  | turn meets => exact absurd meets.name (by decide)

end Reaches

/-- The legs of a walk to what is there make up one way. -/
theorem Follows.reaches {leg : Leg} (follows : fs.Follows purpose start pieces leg) :
    (∀ last, leg = .done (.found last) → fs.Reaches start pieces 0 last) ∧
      ∀ directory target rest, leg = .detour directory target rest →
        ∀ used last, fs.Reaches (origin directory target) (Path.pieces target ++ rest) used last →
          fs.Reaches start pieces (used + 1) last := by
  induction follows with
  | arrive place =>
    refine ⟨?_, nofun⟩
    rintro _ ⟨⟩
    exact .arrive place
  | stay directory idle _ ih =>
    refine ⟨fun last ends => .stay directory idle (ih.1 last ends), ?_⟩
    intro at' target rest turns used last onward
    exact .stay directory idle (ih.2 at' target rest turns used last onward)
  | climb directory _ ih =>
    refine ⟨fun last ends => .climb directory (ih.1 last ends), ?_⟩
    intro at' target rest turns used last onward
    exact .climb directory (ih.2 at' target rest turns used last onward)
  | enter look ordinary _ ih =>
    refine ⟨fun last ends => .enter look.meets ordinary (ih.1 last ends), ?_⟩
    intro at' target rest turns used last onward
    exact .enter look.meets ordinary (ih.2 at' target rest turns used last onward)
  | turn look =>
    refine ⟨nofun, ?_⟩
    rintro _ _ _ ⟨⟩ used last onward
    exact .turn look.meets onward
  | miss => exact ⟨nofun, nofun⟩

/-- A walk finds what its pieces lead to, if it has enough links. -/
theorem walk_eq_found_iff :
    fs.walk .visit links start pieces = .found last ↔
      ∃ used ≤ links, fs.Reaches start pieces used last := by
  constructor
  · intro found
    induction links generalizing start pieces with
    | zero =>
      unfold walk at found
      split at found
      · rename_i leg
        have follows := follows_of_advance (found ▸ Arrival.reached_found last) leg
        exact ⟨0, Nat.le_refl 0, follows.reaches.1 last (by rw [found])⟩
      · cases found
    | succ links ih =>
      unfold walk at found
      split at found
      · rename_i leg
        have follows := follows_of_advance (found ▸ Arrival.reached_found last) leg
        exact ⟨0, Nat.zero_le _, follows.reaches.1 last (by rw [found])⟩
      · rename_i leg
        obtain ⟨used, enough, onward⟩ := ih found
        exact ⟨used + 1, Nat.succ_le_succ enough,
          (follows_of_advance_detour leg).reaches.2 _ _ _ rfl used last onward⟩
  · rintro ⟨used, enough, reaches⟩
    obtain ⟨spare, rfl⟩ := Nat.exists_eq_add_of_le enough
    exact reaches.walk_eq_found spare

end FileSystem

end UnityBuild
