import Mathlib.Data.List.Sort
import UnityBuild.Proofs.Include.Lines

/-!
# Which includes are selected

Includes may overlap in a text: the quote that closes one of them can be the quote of another
opening, and a path can hold the beginning of an opening. The selected ones are those that no
selected include before them reaches into. This rule determines them from left to right, so every
text has exactly one selection, and the scan finds its paths.

The rule is stated for all includes from some position on. A position at which no include begins is
passed. An include that begins there is taken, and the selection goes on where it ends.
-/

namespace UnityBuild.Include

/-- An include of a text: where it begins, and the path between its quotes. -/
structure Occurrence (α : Type) where
  position : Nat
  path : List α

namespace Occurrence

variable {α : Type} {marks : Marks α} {text : List α}

def stop (marks : Marks α) (occurrence : Occurrence α) : Nat :=
  occurrence.position + (marks.directive occurrence.path).length

/-- The include is written in the text at its position, with a path that may stand between quotes.
It need not be one that the scan finds. -/
structure StandsIn (marks : Marks α) (text : List α) (occurrence : Occurrence α) : Prop where
  admitted : marks.AdmitsAll occurrence.path
  written : marks.directive occurrence.path <+: text.drop occurrence.position

theorem position_lt_stop (marks : Marks α) (occurrence : Occurrence α) :
    occurrence.position < occurrence.stop marks := by
  rw [stop, Marks.length_directive]
  omega

variable [BEq α] [LawfulBEq α]

theorem standsIn_iff {occurrence : Occurrence α} :
    occurrence.StandsIn marks text ↔
      marks.capture? (text.drop occurrence.position) = some occurrence.path :=
  ⟨fun stands => Marks.capture?_eq_some_iff.mpr ⟨stands.admitted, stands.written⟩,
    fun captured =>
      have ⟨admitted, written⟩ := Marks.capture?_eq_some_iff.mp captured
      ⟨admitted, written⟩⟩

/-- One include at most begins at a position, because its path ends at the first quote behind the
opening. -/
theorem StandsIn.unique {first second : Occurrence α} (stands : first.StandsIn marks text)
    (other : second.StandsIn marks text) (same : first.position = second.position) :
    first = second := by
  obtain ⟨position, path⟩ := first
  obtain ⟨_, path'⟩ := second
  cases same
  have captured : some path = some path' :=
    (standsIn_iff.mp stands).symm.trans (standsIn_iff.mp other)
  rw [Option.some.inj captured]

end Occurrence

open Occurrence

/-- The includes that begin at a position or behind it, are written in the text, and are not reached
into by one that was selected before them. -/
structure SelectsFrom {α : Type} (marks : Marks α) (text : List α) (start : Nat)
    (selected : List (Occurrence α)) : Prop where
  ordered : selected.Pairwise (·.position < ·.position)
  mem_iff : ∀ occurrence, occurrence ∈ selected ↔
    start ≤ occurrence.position ∧ occurrence.StandsIn marks text ∧
      ∀ earlier ∈ selected, earlier.position < occurrence.position →
        earlier.stop marks ≤ occurrence.position

namespace SelectsFrom

variable {α : Type} {marks : Marks α} {text : List α} {start : Nat}
  {selected : List (Occurrence α)}

/-- Selected includes do not overlap: one that begins behind another one begins behind its closing
quote. -/
theorem disjoint (selects : SelectsFrom marks text start selected) :
    selected.Pairwise fun earlier later => earlier.stop marks ≤ later.position :=
  selects.ordered.imp_of_mem fun early late before =>
    ((selects.mem_iff _).mp late).2.2 _ early before

/-- The rule leaves no choice. The induction is on the position, because the rule for one include
speaks of the selected ones before it. -/
theorem unique {other : List (Occurrence α)} (selects : SelectsFrom marks text start selected)
    (selects' : SelectsFrom marks text start other) : selected = other := by
  have same : ∀ position, ∀ occurrence : Occurrence α, occurrence.position = position →
      (occurrence ∈ selected ↔ occurrence ∈ other) := by
    intro position
    induction position using Nat.strong_induction_on with
    | h position ih =>
      intro occurrence here
      rw [selects.mem_iff, selects'.mem_iff]
      refine and_congr_right fun _ => and_congr_right fun _ => forall_congr' fun earlier => ?_
      constructor
      · intro free member before
        exact free ((ih _ (here ▸ before) earlier rfl).mpr member) before
      · intro free member before
        exact free ((ih _ (here ▸ before) earlier rfl).mp member) before
  have antisymm : Std.Antisymm fun left right : Occurrence α => left.position < right.position :=
    ⟨fun _ _ before after => absurd before (Nat.lt_asymm after)⟩
  have irrefl : Std.Irrefl fun left right : Occurrence α => left.position < right.position :=
    ⟨fun _ => Nat.lt_irrefl _⟩
  exact selects.ordered.eq_of_mem_iff selects'.ordered fun occurrence => same _ occurrence rfl

theorem nil (behind : text.length ≤ start) : SelectsFrom marks text start [] := by
  refine ⟨.nil, fun occurrence => ⟨nofun, ?_⟩⟩
  rintro ⟨within, stands, -⟩
  have written := stands.written
  rw [List.drop_eq_nil_of_le (Nat.le_trans behind within)] at written
  exact absurd (List.prefix_nil.mp written) (marks.directive_ne_nil _)

theorem pass (selects : SelectsFrom marks text (start + 1) selected)
    (absent : ∀ path, ¬ StandsIn marks text ⟨start, path⟩) :
    SelectsFrom marks text start selected := by
  refine ⟨selects.ordered, fun occurrence => (selects.mem_iff occurrence).trans ?_⟩
  refine and_congr_left fun ⟨stands, _⟩ => ⟨Nat.le_of_succ_le, fun within => ?_⟩
  refine Nat.lt_of_le_of_ne within ?_
  rintro rfl
  exact absent _ stands

variable [BEq α] [LawfulBEq α]

/-- An include that begins at the start is selected, and the others begin behind it. -/
theorem take {first : Occurrence α} (selects : SelectsFrom marks text (first.stop marks) selected)
    (stands : first.StandsIn marks text) :
    SelectsFrom marks text first.position (first :: selected) := by
  have behind : ∀ later ∈ selected, first.stop marks ≤ later.position := fun later member =>
    ((selects.mem_iff later).mp member).1
  have after := position_lt_stop marks first
  refine ⟨List.pairwise_cons.mpr ⟨fun later member =>
    Nat.lt_of_lt_of_le after (behind later member), selects.ordered⟩, fun occurrence => ?_⟩
  rw [List.mem_cons, selects.mem_iff, List.forall_mem_cons]
  constructor
  · rintro (rfl | ⟨within, stands', free⟩)
    · refine ⟨Nat.le_refl _, stands, fun before => absurd before (Nat.lt_irrefl _), ?_⟩
      intro later member before
      have := behind later member
      omega
    · exact ⟨by omega, stands', fun _ => within, free⟩
  · rintro ⟨within, stands', free, others⟩
    rcases Nat.eq_or_lt_of_le within with same | before
    · exact .inl (stands'.unique stands same.symm)
    · exact .inr ⟨free before, stands', others⟩

/-- The scan finds a selection. The induction is on what is left of the text, of which some letters
belong to the include that was taken last. -/
theorem exists_of_scan (marks : Marks α) (position skip : Nat) {rest : List α}
    (left : text.drop position = rest) :
    ∃ selected, SelectsFrom marks text (position + skip) selected ∧
      marks.scan skip rest = selected.map (·.path) := by
  induction rest generalizing position skip with
  | nil =>
    have behind := List.drop_eq_nil_iff.mp left
    exact ⟨[], .nil (Nat.le_trans behind (Nat.le_add_right _ _)), by rw [Marks.scan]; rfl⟩
  | cons letter rest ih =>
    have next : text.drop (position + 1) = rest := by
      rw [← List.drop_drop, left, List.drop_one, List.tail_cons]
    cases skip with
    | succ skip =>
      obtain ⟨selected, selects, found⟩ := ih (position + 1) skip next
      rw [Nat.add_right_comm] at selects
      exact ⟨selected, selects, found⟩
    | zero =>
      cases captured : marks.capture? (letter :: rest) with
      | none =>
        obtain ⟨selected, selects, found⟩ := ih (position + 1) 0 next
        refine ⟨selected, selects.pass fun path stands => ?_, ?_⟩
        · have captured' := standsIn_iff.mp stands
          rw [left, captured] at captured'
          cases captured'
        · rw [Marks.scan_cons_of_absent captured, found]
      | some path =>
        obtain ⟨selected, selects, found⟩ :=
          ih (position + 1) (marks.opening.length + path.length) next
        have stands : StandsIn marks text ⟨position, path⟩ := standsIn_iff.mpr (left ▸ captured)
        have behind : position + 1 + (marks.opening.length + path.length) =
            (⟨position, path⟩ : Occurrence α).stop marks := by
          simp only [stop, Marks.length_directive]
          omega
        rw [behind] at selects
        refine ⟨⟨position, path⟩ :: selected, selects.take stands, ?_⟩
        rw [Marks.scan, captured]
        simp only [found, List.map_cons]

end SelectsFrom

/-- Every text has one selection, and its paths are extracted in their order. No two of its includes
overlap. What follows an include that is not closed on its line is extracted as if it stood alone.
-/
theorem paths_eq_selection (text : List Char) :
    (∃! selected, SelectsFrom characters text 0 selected) ∧
      (∀ selected, SelectsFrom characters text 0 selected →
        paths text = selected.map (String.ofList ·.path) ∧
          selected.Pairwise fun earlier later => earlier.stop characters ≤ later.position) ∧
      ∀ front path back, text = front ++ characters.opening ++ path ++ back →
        characters.AdmitsAll path →
        (∀ letter, back.head? = some letter → letter ∈ characters.lineEnds) →
        paths text = paths (front ++ characters.opening) ++ paths back := by
  obtain ⟨selected, selects, found⟩ :=
    SelectsFrom.exists_of_scan characters 0 0 (show text.drop 0 = text from rfl)
  refine ⟨⟨selected, selects, fun other selects' => selects'.unique selects⟩, ?_, ?_⟩
  · intro other selects'
    obtain rfl := selects'.unique selects
    refine ⟨?_, selects.disjoint⟩
    rw [paths, found, List.map_map]
    rfl
  · rintro front path back rfl admitted ends
    rw [paths, Marks.characters_onOneLine.scan_unclosed admitted ends, List.map_append]
    rfl

/-- A text in which the first include is closed by the quote of another opening, and one further on
is not closed. -/
def tangled : List Char :=
  "#include \"a#include \"b\"\n".toList ++ characters.opening ++ ['c'] ++
    "\n#include \"d\"".toList

/-- The opening inside the first include belongs to the path of that include, and the opening that
is not closed hides nothing on the line behind it. -/
theorem tangled_selection :
    (∃ selected, SelectsFrom characters tangled 0 selected ∧
      selected.map (String.ofList ·.path) = ["a#include ", "d"]) ∧
    characters.AdmitsAll ['c'] ∧
    paths tangled =
      paths ("#include \"a#include \"b\"\n".toList ++ characters.opening) ++
        paths "\n#include \"d\"".toList := by
  have extracted : paths tangled = ["a#include ", "d"] := by decide
  have admitted : characters.AdmitsAll ['c'] := Marks.admitsAll_characters_iff.mpr (by simp)
  obtain ⟨⟨selected, selects, -⟩, determined, unclosed⟩ := paths_eq_selection tangled
  refine ⟨⟨selected, selects, (determined selected selects).1.symm.trans extracted⟩, admitted, ?_⟩
  refine unclosed _ _ _ rfl admitted fun letter first => ?_
  obtain rfl : '\n' = letter := Option.some.inj first
  decide

end UnityBuild.Include
