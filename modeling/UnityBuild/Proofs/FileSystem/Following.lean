import Mathlib.Tactic.SplitIfs
import UnityBuild.FileSystem.Access

/-!
# Ways through a file system

A walk that does not fail follows every piece of its path by one of a few rules. `Follows` has one
rule for each of them, so what is true of all walks is proved rule by rule. It is the part of
`advance` that does not fail.

A walk to create a file and a walk to use what is there follow the same rules, apart from one
condition that only the first has to meet. So the first of them can be replaced by the second.
-/

namespace UnityBuild

/-- The end of a walk that did not fail. -/
def Arrival.Reached (arrival : Arrival) : Prop :=
  ∀ failure, arrival ≠ .failed failure

theorem Arrival.reached_found (place : Place) : (found place).Reached := nofun

theorem Arrival.reached_missing (directory : Place) (name : String) :
    (missing directory name).Reached := nofun

/-- The leg with another end, if it has one. -/
def Leg.map (change : Arrival → Arrival) : Leg → Leg
  | .done arrival => .done (change arrival)
  | .detour directory target rest => .detour directory target rest

namespace FileSystem

variable {fs : FileSystem} {purpose : Purpose} {place : Place} {piece : String}
  {rest pieces : List String} {leg : Leg}

theorem entry?_eq_ok_iff {found : Option Node} :
    fs.entry? place piece = .ok found ↔
      place.removed = 0 ∧ piece.utf8ByteSize ≤ longestName ∧
        fs.node? (place.names ++ [piece]) = found := by
  unfold entry?
  split
  · simp_all
  · split
    · simp only [reduceCtorEq, false_iff]
      omega
    · simp_all

/-- A walk may look up a name: it stands in a directory, and slashes follow the name only if more
names do or if no file would be created there. -/
structure LooksUp (fs : FileSystem) (purpose : Purpose) (place : Place) (piece : String)
    (rest : List String) (found : Option Node) : Prop where
  directory : fs.isDirectoryAt place = true
  name : Path.isName piece = true
  bare : (purpose = .create && rest.all (· == "") && !rest.isEmpty) = false
  entry : fs.entry? place piece = .ok found

/-- The legs of walks that do not fail. There is one rule for each thing that a piece can do, and a
leg ends at a link, at a name that is missing, or where no piece is left. -/
inductive Follows (fs : FileSystem) (purpose : Purpose) : Place → List String → Leg → Prop
  | arrive (place : Place) : Follows fs purpose place [] (.done (.found place))
  | stay {place : Place} {piece : String} {rest : List String} {leg : Leg}
      (directory : fs.isDirectoryAt place = true) (idle : Path.isIdle piece = true)
      (onward : Follows fs purpose place rest leg) : Follows fs purpose place (piece :: rest) leg
  | climb {place : Place} {rest : List String} {leg : Leg}
      (directory : fs.isDirectoryAt place = true)
      (onward : Follows fs purpose place.parent rest leg) :
      Follows fs purpose place (".." :: rest) leg
  | enter {place : Place} {piece : String} {rest : List String} {leg : Leg} {node : Node}
      (look : fs.LooksUp purpose place piece rest (some node))
      (ordinary : ∀ target, node ≠ .link target)
      (onward : Follows fs purpose (.standing (place.names ++ [piece])) rest leg) :
      Follows fs purpose place (piece :: rest) leg
  | turn {place : Place} {piece : String} {rest : List String} {target : String}
      (look : fs.LooksUp purpose place piece rest (some (.link target))) :
      Follows fs purpose place (piece :: rest) (.detour place target rest)
  | miss {place : Place} {piece : String} {rest : List String}
      (look : fs.LooksUp purpose place piece rest none)
      (last : rest.all (· == "") = true) :
      Follows fs purpose place (piece :: rest) (.done (.missing place piece))

theorem advance_idle (directory : fs.isDirectoryAt place = true) (idle : Path.isIdle piece = true) :
    fs.advance purpose place (piece :: rest) = fs.advance purpose place rest := by
  simp [advance, directory, idle]

theorem advance_parent (directory : fs.isDirectoryAt place = true) :
    fs.advance purpose place (".." :: rest) = fs.advance purpose place.parent rest := by
  simp [advance, directory, Path.isIdle]

theorem advance_name (directory : fs.isDirectoryAt place = true)
    (name : Path.isName piece = true) :
    fs.advance purpose place (piece :: rest) =
      if purpose = .create && rest.all (· == "") && !rest.isEmpty then
        .done (.failed .isADirectory)
      else match fs.entry? place piece with
        | .error failure => .done (.failed failure)
        | .ok none =>
          .done (if rest.all (· == "") then .missing place piece else .failed .notFound)
        | .ok (some (.link target)) => .detour place target rest
        | .ok (some _) => fs.advance purpose (.standing (place.names ++ [piece])) rest := by
  have notIdle : ¬ Path.isIdle piece = true := by simp [Path.isIdle_of_isName name]
  rw [advance]
  exact (if_neg (by simp [directory])).trans
    ((if_neg notIdle).trans (if_neg (Path.ne_parent_of_isName name)))

theorem advance_of_looksUp {found : Option Node}
    (look : fs.LooksUp purpose place piece rest found) :
    fs.advance purpose place (piece :: rest) =
      match found with
      | none => .done (if rest.all (· == "") then .missing place piece else .failed .notFound)
      | some (.link target) => .detour place target rest
      | some _ => fs.advance purpose (.standing (place.names ++ [piece])) rest := by
  rw [advance_name look.directory look.name, look.bare, if_neg Bool.false_ne_true, look.entry]
  rcases found with - | ⟨⟩ | - | - | - <;> rfl

theorem Follows.advance (follows : fs.Follows purpose place pieces leg) :
    fs.advance purpose place pieces = leg := by
  induction follows with
  | arrive => rfl
  | stay directory idle _ ih => rw [advance_idle directory idle, ih]
  | climb directory _ ih => rw [advance_parent directory, ih]
  | @enter _ _ _ _ node look ordinary _ ih =>
    rw [advance_of_looksUp look, ← ih]
    cases node with
    | link target => exact absurd rfl (ordinary target)
    | _ => rfl
  | turn look => rw [advance_of_looksUp look]
  | miss look last => rw [advance_of_looksUp look, last, if_pos rfl]

/-- A walk follows the rules or fails. So what is proved for each rule holds for every walk that
comes to an end without a failure. -/
theorem follows_or_failed (fs : FileSystem) (purpose : Purpose) (place : Place)
    (pieces : List String) :
    fs.Follows purpose place pieces (fs.advance purpose place pieces) ∨
      ∃ failure, fs.advance purpose place pieces = .done (.failed failure) := by
  induction pieces generalizing place with
  | nil => exact .inl (.arrive place)
  | cons piece rest ih =>
    -- The cases are the tests of a step, in their order.
    cases directory : fs.isDirectoryAt place with
    | false => exact .inr ⟨.notADirectory, by simp [advance, directory]⟩
    | true =>
    by_cases idle : Path.isIdle piece = true
    · rw [advance_idle directory idle]
      exact (ih place).imp_left (.stay directory idle)
    by_cases up : piece = ".."
    · subst up
      rw [advance_parent directory]
      exact (ih place.parent).imp_left (.climb directory)
    have name : Path.isName piece = true := by simp [Path.isName, idle, up]
    rw [advance_name directory name]
    cases bare : purpose = .create && rest.all (· == "") && !rest.isEmpty with
    | true => exact .inr ⟨_, if_pos rfl⟩
    | false =>
      rw [if_neg Bool.false_ne_true]
      cases entry : fs.entry? place piece with
      | error failure => exact .inr ⟨failure, rfl⟩
      | ok found =>
        have look : fs.LooksUp purpose place piece rest found := ⟨directory, name, bare, entry⟩
        cases found with
        | none =>
          by_cases last : rest.all (· == "") = true
          · rw [if_pos last]
            exact .inl (.miss look last)
          · rw [if_neg last]
            exact .inr ⟨_, rfl⟩
        | some node =>
          have onward := ih (.standing (place.names ++ [piece]))
          cases node with
          | link target => exact .inl (.turn look)
          | _ => exact onward.imp_left (.enter look (by simp))

theorem follows_of_advance {arrival : Arrival} (reached : arrival.Reached)
    (h : fs.advance purpose place pieces = .done arrival) :
    fs.Follows purpose place pieces (.done arrival) := by
  rcases follows_or_failed fs purpose place pieces with follows | ⟨failure, failed⟩
  · rwa [h] at follows
  · rw [h] at failed
    exact absurd (Leg.done.inj failed) (reached failure)

theorem follows_of_advance_detour {directory : Place} {target : String}
    (h : fs.advance purpose place pieces = .detour directory target rest) :
    fs.Follows purpose place pieces (.detour directory target rest) := by
  rcases follows_or_failed fs purpose place pieces with follows | ⟨failure, failed⟩
  · rwa [h] at follows
  · rw [h] at failed
    cases failed

/-- A walk ends where its last leg does. -/
theorem exists_follows_of_walk {links : Nat} {arrival : Arrival} (reached : arrival.Reached)
    (h : fs.walk purpose links place pieces = arrival) :
    ∃ place pieces, fs.Follows purpose place pieces (.done arrival) := by
  induction links generalizing place pieces with
  | zero =>
    unfold walk at h
    split at h
    · rename_i leg
      exact ⟨place, pieces, follows_of_advance reached (h ▸ leg)⟩
    · exact absurd h.symm (reached _)
  | succ links ih =>
    unfold walk at h
    split at h
    · rename_i leg
      exact ⟨place, pieces, follows_of_advance reached (h ▸ leg)⟩
    · exact ih h

theorem exists_follows_of_locate {path : String} {arrival : Arrival} (reached : arrival.Reached)
    (h : fs.locate purpose path = arrival) :
    ∃ place pieces, fs.Follows purpose place pieces (.done arrival) := by
  unfold locate at h
  split_ifs at h
  · exact absurd h.symm (reached _)
  · exact absurd h.symm (reached _)
  · exact absurd h.symm (reached _)
  · exact exists_follows_of_walk reached h

section

variable {after : FileSystem} {purpose' : Purpose} {change : Arrival → Arrival}
  (legs : ∀ place pieces leg, fs.Follows purpose place pieces leg →
    after.Follows purpose' place pieces (leg.map change))

include legs

/-- Two walks agree when their legs do. -/
theorem walk_of_follows {links : Nat}
    (reached : (fs.walk purpose links place pieces).Reached) :
    after.walk purpose' links place pieces = change (fs.walk purpose links place pieces) := by
  induction links generalizing place pieces with
  | zero =>
    unfold walk at reached ⊢
    split at reached
    · rename_i leg
      rw [(legs _ _ _ (follows_of_advance reached leg)).advance]
      rfl
    · exact absurd rfl (reached _)
  | succ links ih =>
    unfold walk at reached ⊢
    split at reached
    · rename_i leg
      rw [(legs _ _ _ (follows_of_advance reached leg)).advance]
      rfl
    · rename_i leg
      rw [(legs _ _ _ (follows_of_advance_detour leg)).advance]
      exact ih reached

theorem locate_of_follows {path : String} (here : after.here = fs.here)
    (reached : (fs.locate purpose path).Reached) :
    after.locate purpose' path = change (fs.locate purpose path) := by
  unfold locate at reached ⊢
  rw [here]
  split_ifs at reached ⊢
  · exact absurd rfl (reached _)
  · exact absurd rfl (reached _)
  · exact absurd rfl (reached _)
  · exact walk_of_follows legs reached

end

theorem LooksUp.visit {found : Option Node} (look : fs.LooksUp purpose place piece rest found) :
    fs.LooksUp .visit place piece rest found :=
  ⟨look.directory, look.name, rfl, look.entry⟩

theorem Follows.visit (follows : fs.Follows purpose place pieces leg) :
    fs.Follows .visit place pieces leg := by
  induction follows with
  | arrive place => exact .arrive place
  | stay directory idle _ ih => exact .stay directory idle ih
  | climb directory _ ih => exact .climb directory ih
  | enter look ordinary _ ih => exact .enter look.visit ordinary ih
  | turn look => exact .turn look.visit
  | miss look last => exact .miss look.visit last

/-- A walk that could create a file ends where a walk to what is there does. -/
theorem locate_visit {path : String} (reached : (fs.locate purpose path).Reached) :
    fs.locate .visit path = fs.locate purpose path := by
  have legs : ∀ place pieces leg, fs.Follows purpose place pieces leg →
      fs.Follows .visit place pieces (leg.map id) := by
    intro place pieces leg follows
    cases leg <;> exact follows.visit
  exact locate_of_follows legs rfl reached

end FileSystem

end UnityBuild
