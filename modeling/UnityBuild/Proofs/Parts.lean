import Mathlib.Algebra.GroupWithZero.Nat
import Mathlib.Data.List.Forall2

/-!
# Lists of parts

An expansion gives every item of a list its part and puts the parts together in order. Which part an
item may have is a relation here, since a part can be missing when the expansion of its item fails.
-/

namespace UnityBuild

variable {α β : Type} {rel other : α → β → Prop} {items : List α}

/-- Parts for a whole list can be chosen item by item. -/
theorem exists_forall₂_iff :
    (∃ parts, List.Forall₂ rel items parts) ↔ ∀ item ∈ items, ∃ part, rel item part := by
  induction items with
  | nil => simp
  | cons item rest ih =>
    simp only [List.forall₂_cons_left_iff, List.forall_mem_cons, ← ih]
    constructor
    · rintro ⟨_, part, parts, first, others, rfl⟩
      exact ⟨⟨part, first⟩, parts, others⟩
    · rintro ⟨⟨part, first⟩, parts, others⟩
      exact ⟨part :: parts, part, parts, first, others, rfl⟩

theorem forall₂_imp_of_mem {parts : List β} (h : List.Forall₂ rel items parts)
    (imp : ∀ item ∈ items, ∀ part, rel item part → other item part) :
    List.Forall₂ other items parts := by
  induction h with
  | nil => exact .nil
  | cons first _ ih =>
    exact .cons (imp _ (by simp) _ first) (ih fun item member => imp item (by simp [member]))

/-- Parts are determined as far as the part of every item is. -/
theorem forall₂_unique {parts others : List β} (h : List.Forall₂ rel items parts)
    (h' : List.Forall₂ other items others)
    (unique : ∀ item ∈ items, ∀ part part', rel item part → other item part' → part = part') :
    parts = others := by
  induction h generalizing others with
  | nil => exact (List.forall₂_nil_left_iff.mp h').symm
  | cons first _ ih =>
    cases h' with
    | cons first' rest' =>
      rw [unique _ (by simp) _ _ first first',
        ih rest' fun item member => unique item (by simp [member])]

/-- Two lists of parts are related throughout if the two parts of every item are. -/
theorem forall₂_flatten {rel other : α → List β → Prop} {good : β → β → Prop}
    {parts others : List (List β)} (h : List.Forall₂ rel items parts)
    (h' : List.Forall₂ other items others)
    (each : ∀ item ∈ items, ∀ part part', rel item part → other item part' →
      List.Forall₂ good part part') :
    List.Forall₂ good parts.flatten others.flatten := by
  induction h generalizing others with
  | nil => cases h' with
    | nil => exact .nil
  | cons first _ ih =>
    cases h' with
    | cons first' rest' =>
      have rest := ih rest' fun item member => each item (by simp [member])
      exact List.rel_append (each _ (by simp) _ _ first first') rest

/-- What is in one of the parts belongs to some item. -/
theorem exists_mem_of_mem_flatten {rel : α → List β → Prop} {parts : List (List β)} {made : β}
    (h : List.Forall₂ rel items parts) (member : made ∈ parts.flatten) :
    ∃ item ∈ items, ∃ part, rel item part ∧ made ∈ part := by
  induction h with
  | nil => simp at member
  | @cons item part items parts first _ ih =>
    rw [List.flatten_cons, List.mem_append] at member
    rcases member with member | member
    · exact ⟨item, by simp, part, first, member⟩
    · obtain ⟨item, among, rest⟩ := ih member
      exact ⟨item, by simp [among], rest⟩

theorem exists_part_of_mem {rel : α → List β → Prop} {parts : List (List β)} {item : α}
    (h : List.Forall₂ rel items parts) (member : item ∈ items) :
    ∃ part, rel item part ∧ ∀ made ∈ part, made ∈ parts.flatten := by
  induction h with
  | nil => simp at member
  | @cons _ part _ _ first _ ih =>
    rcases List.mem_cons.mp member with rfl | member
    · exact ⟨part, first, fun made among => by simp [among]⟩
    · obtain ⟨part, rest, among⟩ := ih member
      exact ⟨part, rest, fun made inside => by simp [among made inside]⟩

/-- The parts together are as long as the lengths of the items' parts add up to. -/
theorem length_flatten_of_forall₂ {rel : α → List β → Prop} {parts : List (List β)}
    {size : α → Nat} (h : List.Forall₂ rel items parts)
    (each : ∀ item ∈ items, ∀ part, rel item part → part.length = size item) :
    parts.flatten.length = (items.map size).sum := by
  induction h with
  | nil => rfl
  | cons first _ ih =>
    have rest := ih fun item member => each item (by simp [member])
    rw [List.flatten_cons, List.length_append, each _ (by simp) _ first, rest, List.map_cons,
      List.sum_cons]

/-- A property of all that is in the parts can be decided item by item. -/
theorem forall_mem_flatten_iff {rel : α → List β → Prop} {parts : List (List β)}
    {good : β → Prop} {fair : α → Prop} (h : List.Forall₂ rel items parts)
    (each : ∀ item ∈ items, ∀ part, rel item part → ((∀ made ∈ part, good made) ↔ fair item)) :
    (∀ made ∈ parts.flatten, good made) ↔ ∀ item ∈ items, fair item := by
  constructor
  · intro all item member
    obtain ⟨part, related, among⟩ := exists_part_of_mem h member
    exact (each item member part related).mp fun made inside => all made (among made inside)
  · intro all made member
    obtain ⟨item, among, part, related, inside⟩ := exists_mem_of_mem_flatten h member
    exact (each item among part related).mpr (all item among) made inside

end UnityBuild
