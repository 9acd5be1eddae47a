import UnityBuild.Json.Element

/-!
# What a reader takes off the front of a text

A reader is known by the text that stands in front of it, the value that it gives, and the text that
it leaves. How many bytes were read earlier is told in refusals only, so it stays out of these
statements. Some tell that a text is read, and others that whatever was read has a form. The rules
below are for what stands between values: blanks, commas, colons and brackets.
-/

namespace UnityBuild.Json

/-- In front of this text the reader gives a value and leaves what follows. -/
def Reads {α : Type} (reader : Cursor → Except Refusal (α × Cursor)) (before : Bytes) (value : α)
    (after : Bytes) : Prop :=
  ∀ cursor : Cursor, cursor.rest = before →
    ∃ stop, reader cursor = .ok (value, stop) ∧ stop.rest = after

/-- In front of this text the reader succeeds and leaves what follows. -/
def Passes (reader : Cursor → Except Refusal Cursor) (before after : Bytes) : Prop :=
  ∀ cursor : Cursor, cursor.rest = before → ∃ stop, reader cursor = .ok stop ∧ stop.rest = after

/-- Whatever the reader takes off the front of a text has this form, with the value it gives. -/
def Takes {α : Type} (reader : Cursor → Except Refusal (α × Cursor)) (form : Bytes → α → Prop) :
    Prop :=
  ∀ ⦃cursor stop : Cursor⦄ ⦃value : α⦄, reader cursor = .ok (value, stop) →
    ∃ text, form text value ∧ cursor.rest = text ++ stop.rest

/-- Whatever the reader goes over has this form. -/
def Covers (reader : Cursor → Except Refusal Cursor) (form : Bytes → Prop) : Prop :=
  ∀ ⦃cursor stop : Cursor⦄, reader cursor = .ok stop →
    ∃ text, form text ∧ cursor.rest = text ++ stop.rest

/-- A text of blanks only. -/
def Blank (text : Bytes) : Prop :=
  ∀ byte ∈ text, Cursor.isBlank byte = true

theorem blank_nil : Blank [] := by
  intro byte member
  cases member

theorem blank_append {text more : Bytes} (blank : Blank text) (blank' : Blank more) :
    Blank (text ++ more) := by
  intro byte member
  rcases List.mem_append.mp member with left | right
  · exact blank byte left
  · exact blank' byte right

namespace Cursor

@[simp] theorem rest_skipWhile (test : UInt8 → Bool) (consumed : Nat) (text : Bytes) :
    (skipWhile test consumed text).rest = text.dropWhile test := by
  fun_induction skipWhile test consumed text with
  | case1 => rfl
  | case2 consumed byte rest inside ih => rw [ih, List.dropWhile_cons_of_pos inside]
  | case3 consumed byte rest outside => rw [List.dropWhile_cons_of_neg outside]

theorem rest_skip_one {cursor : Cursor} {byte : UInt8} {rest : Bytes}
    (front : cursor.rest = byte :: rest) : (cursor.skip 1).rest = rest := by
  simp [front]

/-- Blanks are skipped up to the first byte that is none. -/
theorem rest_skipBlank {cursor : Cursor} {blanks rest : Bytes} {byte : UInt8}
    (h : cursor.rest = blanks ++ byte :: rest) (blank : Blank blanks)
    (visible : isBlank byte = false) : cursor.skipBlank.rest = byte :: rest := by
  rw [skipBlank, rest_skipWhile, h, List.dropWhile_append_of_pos blank,
    List.dropWhile_cons_of_neg (by simp [visible])]

theorem rest_skipBlank_of_blank {cursor : Cursor} (blank : Blank cursor.rest) :
    cursor.skipBlank.rest = [] := by
  have all : (cursor.rest ++ []).dropWhile isBlank = [].dropWhile isBlank :=
    List.dropWhile_append_of_pos blank
  rwa [List.append_nil, ← rest_skipWhile _ cursor.consumed] at all

theorem exists_skipBlank (cursor : Cursor) :
    ∃ blanks, Blank blanks ∧ cursor.rest = blanks ++ cursor.skipBlank.rest := by
  refine ⟨cursor.rest.takeWhile isBlank, fun byte member => ?_, ?_⟩
  · exact List.all_eq_true.mp List.all_takeWhile byte member
  · rw [skipBlank, rest_skipWhile, List.takeWhile_append_dropWhile]

end Cursor

section Marks

variable {blanks more rest : Bytes} {byte : UInt8}

theorem reads_nextElement_first (blank : Blank blanks) (visible : Cursor.isBlank byte = false)
    (other : byte ≠ 0x5D) :
    Reads (nextElement true) (blanks ++ byte :: rest) true (byte :: rest) := by
  intro cursor front
  have start := Cursor.rest_skipBlank front blank visible
  exact ⟨cursor.skipBlank, by simp [nextElement, start, other], start⟩

theorem reads_nextElement_more (blanks : Bytes) (blank : Blank blanks) (blank' : Blank more)
    (visible : Cursor.isBlank byte = false) (other : byte ≠ 0x5D) :
    Reads (nextElement false) (blanks ++ 0x2C :: (more ++ byte :: rest)) true (byte :: rest) := by
  intro cursor front
  have comma := Cursor.rest_skipBlank front blank (by decide)
  have behind : (cursor.skipBlank.skip 1).rest = more ++ byte :: rest := by simp [comma]
  have start := Cursor.rest_skipBlank behind blank' visible
  exact ⟨(cursor.skipBlank.skip 1).skipBlank, by simp [nextElement, comma, start, other], start⟩

/-- The bracket of a list is found behind blanks, and left. -/
theorem reads_nextElement_end (blanks : Bytes) (blank : Blank blanks) (first : Bool) :
    Reads (nextElement first) (blanks ++ 0x5D :: rest) false (0x5D :: rest) := by
  intro cursor front
  have start := Cursor.rest_skipBlank front blank (by decide)
  exact ⟨cursor.skipBlank, by simp [nextElement, start], start⟩

/-- The first name of an object begins behind blanks and a quote. -/
theorem reads_nextName_first (blank : Blank blanks) :
    Reads (nextName true) (blanks ++ 0x22 :: rest) true rest := by
  intro cursor front
  have start := Cursor.rest_skipBlank front blank (by decide)
  exact ⟨cursor.skipBlank.skip 1, by simp [nextName, start], by simp [start]⟩

theorem reads_nextName_more (blanks : Bytes) (blank : Blank blanks) (blank' : Blank more) :
    Reads (nextName false) (blanks ++ 0x2C :: (more ++ 0x22 :: rest)) true rest := by
  intro cursor front
  have comma := Cursor.rest_skipBlank front blank (by decide)
  have behind : (cursor.skipBlank.skip 1).rest = more ++ 0x22 :: rest := by simp [comma]
  have start := Cursor.rest_skipBlank behind blank' (by decide)
  exact ⟨(cursor.skipBlank.skip 1).skipBlank.skip 1, by simp [nextName, comma, start],
    by simp [start]⟩

/-- The bracket of an object is found behind blanks, and left. -/
theorem reads_nextName_end (blank : Blank blanks) (first : Bool) :
    Reads (nextName first) (blanks ++ 0x7D :: rest) false (0x7D :: rest) := by
  intro cursor front
  have start := Cursor.rest_skipBlank front blank (by decide)
  exact ⟨cursor.skipBlank, by simp [nextName, start], start⟩

theorem passes_readColon (blank : Blank blanks) :
    Passes readColon (blanks ++ 0x3A :: rest) rest := by
  intro cursor front
  have start := Cursor.rest_skipBlank front blank (by decide)
  exact ⟨cursor.skipBlank.skip 1, by simp [readColon, start], by simp [start]⟩

/-- Where a text is wanted, blanks may come before its quote. -/
theorem reads_readString {text : String} {after : Bytes} (blank : Blank blanks)
    (read : Reads readText rest text after) :
    Reads readString (blanks ++ 0x22 :: rest) text after := by
  intro cursor front
  have start := Cursor.rest_skipBlank front blank (by decide)
  obtain ⟨stop, success, left⟩ := read (cursor.skipBlank.skip 1) (by simp [start])
  exact ⟨stop, by simp [readString, start, success], left⟩

/-- The bracket of an object that has been found is read. -/
theorem rest_closeIf {cursor : Cursor} (front : cursor.rest = [] ++ 0x7D :: rest) :
    (closeIf .object cursor).rest = rest := by
  have start := Cursor.rest_skipBlank front blank_nil (by decide)
  simp [closeIf, start, Bracket.closing]

end Marks

end UnityBuild.Json
