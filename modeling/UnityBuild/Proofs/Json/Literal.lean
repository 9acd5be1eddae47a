import UnityBuild.Proofs.Json.Reading
import UnityBuild.Proofs.Text.Utf8

/-!
# Texts between quotes

A piece of a text spells bytes when reading over it adds these bytes to what is done, and pieces
that follow each other spell what they spell one after the other. A plain byte spells itself and an
escape what it means. A text whose pieces spell the bytes of characters is read as these characters.
-/

namespace UnityBuild.Json

/-- Inside a text, reading over the piece adds these bytes, whatever was read before and whatever
follows. Pieces with this property can be put together. -/
def Spells (piece meant : Bytes) : Prop :=
  ∀ (done : Array UInt8) (consumed : Nat) (rest : Bytes), ∃ stop,
    readBytes done ⟨consumed, piece ++ rest⟩ = readBytes (done ++ meant) ⟨stop, rest⟩

/-- A byte that is no quote, no backslash and no control character. -/
def Plain (byte : UInt8) : Prop :=
  byte ≠ 0x22 ∧ byte ≠ 0x5C ∧ leastPlain ≤ byte

instance (byte : UInt8) : Decidable (Plain byte) :=
  inferInstanceAs (Decidable (_ ∧ _ ∧ _))

/-- All bytes of characters that take more than one byte are plain. -/
theorem plain_of_le {byte : UInt8} (h : 0x80 ≤ byte) : Plain byte := by
  refine ⟨?_, ?_, UInt8.le_trans (by decide) h⟩
  · rintro rfl
    exact absurd h (by decide)
  · rintro rfl
    exact absurd h (by decide)

namespace Spells

variable {piece meant : Bytes}

theorem nil : Spells [] [] := by
  intro done consumed rest
  exact ⟨consumed, by simp⟩

theorem append {piece' meant' : Bytes} (first : Spells piece meant)
    (second : Spells piece' meant') : Spells (piece ++ piece') (meant ++ meant') := by
  intro done consumed rest
  obtain ⟨middle, left⟩ := first done consumed (piece' ++ rest)
  obtain ⟨stop, right⟩ := second (done ++ meant) middle rest
  have joined : done ++ meant ++ meant' = done ++ (meant ++ meant') := Array.ext' (by simp)
  exact ⟨stop, by rw [List.append_assoc, left, right, joined]⟩

theorem byte {byte : UInt8} (plain : Plain byte) : Spells [byte] [byte] := by
  intro done consumed rest
  obtain ⟨noQuote, noSlash, visible⟩ := plain
  refine ⟨consumed + 1, ?_⟩
  rw [List.singleton_append, readBytes]
  simp [noQuote, noSlash, UInt8.not_lt.mpr visible]

theorem plain (h : ∀ byte ∈ piece, Plain byte) : Spells piece piece := by
  induction piece with
  | nil => exact nil
  | cons first rest ih =>
    exact (byte (h first (by simp))).append (ih fun other member => h other (by simp [member]))

/-- A backslash and what follows it spell what the escape means. -/
theorem escape (read : ∀ rest, Reads readEscaped (piece ++ rest) meant rest) :
    Spells (0x5C :: piece) meant := by
  intro done consumed rest
  obtain ⟨⟨stop, left⟩, success, same⟩ := read rest ⟨consumed + 1, piece ++ rest⟩ rfl
  obtain rfl : left = rest := same
  refine ⟨stop, ?_⟩
  rw [List.cons_append, readBytes]
  simp only [show ((0x5C : UInt8) = 0x22) = False by decide, if_false, if_true]
  split
  · rename_i refused
    cases success.symm.trans refused
  · rename_i accepted
    cases success.symm.trans accepted
    rfl

theorem flatMap {α : Type} {letters : List α} {pieces meanings : α → Bytes}
    (h : ∀ letter ∈ letters, Spells (pieces letter) (meanings letter)) :
    Spells (letters.flatMap pieces) (letters.flatMap meanings) := by
  induction letters with
  | nil => exact nil
  | cons letter rest ih =>
    exact (h letter (by simp)).append (ih fun other member => h other (by simp [member]))

end Spells

/-- A text ends at its quote, and is what its bytes are decoded into. -/
theorem reads_readText {piece : Bytes} {letters : List Char} (rest : Bytes)
    (spells : Spells piece (Utf8.bytes letters)) :
    Reads readText (piece ++ 0x22 :: rest) (String.ofList letters) rest := by
  rintro ⟨consumed, front⟩ rfl
  obtain ⟨stop, passed⟩ := spells #[] consumed (0x22 :: rest)
  have ending : readBytes ((#[] : Array UInt8) ++ Utf8.bytes letters) ⟨stop, 0x22 :: rest⟩ =
      .ok (Utf8.bytes letters, ⟨stop + 1, rest⟩) := by
    rw [readBytes]
    simp
  refine ⟨⟨stop + 1, rest⟩, ?_, rfl⟩
  rw [readText, passed, ending]
  simp [bind, Except.bind, Utf8.decode_bytes]

section Escapes

variable (rest : Bytes)

theorem reads_readEscaped_short {byte meant : UInt8} (short : shortEscape? byte = some meant) :
    Reads readEscaped (byte :: rest) [meant] rest := by
  intro cursor front
  have other : byte ≠ 0x75 := by
    rintro rfl
    cases short
  exact ⟨cursor.skip 1, by simp [readEscaped, readEscape, front, other, short], by simp [front]⟩

/-- An escape by number means the character of that number, unless it is half of a pair. -/
theorem reads_readEscaped_number {first second third fourth : UInt8} {number : Nat}
    (value : hexNumber? [first, second, third, fourth] = some number)
    (noTrailing : isTrailing number = false) (noLeading : isLeading number = false) :
    Reads readEscaped (0x75 :: first :: second :: third :: fourth :: rest)
      (String.utf8EncodeChar (Char.ofNat number)) rest := by
  intro cursor front
  refine ⟨(cursor.skip 1).skip 4, ?_, by simp [front]⟩
  simp [readEscaped, readEscape, front, readNumbered, readHex, value, bind, Except.bind,
    noTrailing, noLeading]

end Escapes

end UnityBuild.Json
