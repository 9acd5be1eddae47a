import UnityBuild.Proofs.Text.Decoding

/-!
# ASCII letters in any text

A reader of every text puts a mark in the place of each malformed sequence. An ASCII byte is never
part of a sequence of several bytes, whether that is well-formed or not: it ends the sequence before
it and stands for its own letter. Any other byte leads to letters beyond ASCII only, either to the
mark or to a character that takes more than one byte.

So the ASCII letters of a decoded text are the ASCII bytes of the text, and what stands between them
is decoded on its own.
-/

namespace UnityBuild.Utf8

/-- A letter that is written as one byte. -/
def IsAscii (letter : Char) : Prop :=
  letter.toNat < 0x80

instance (letter : Char) : Decidable (IsAscii letter) :=
  inferInstanceAs (Decidable (letter.toNat < 0x80))

theorem lead_toUInt8 {letter : Char} (ascii : IsAscii letter) :
    lead letter.toUInt8 = .emit letter := by
  have read := lead_of_ascii letter.toNat ascii
  rwa [Char.ofNat_toNat] at read

theorem toUInt8_lt {letter : Char} (ascii : IsAscii letter) : letter.toUInt8 < 0x80 := by
  have small : letter.toNat < 0x80 := ascii
  have value : letter.toUInt8.toNat = letter.toNat % 256 := UInt8.toNat_ofNat'
  rw [UInt8.lt_iff_toNat_lt, value, Nat.mod_eq_of_lt (by omega)]
  exact small

/-- A byte below the other ones is that of a letter. -/
theorem exists_isAscii_of_lt {byte : UInt8} (small : byte < 0x80) :
    ∃ letter, IsAscii letter ∧ byte = letter.toUInt8 := by
  have below : byte.toNat < 0x80 := UInt8.lt_iff_toNat_lt.mp small
  have number := toNat_ofNat_of_valid (.inl (by omega) : byte.toNat < 0xD800 ∨ _)
  refine ⟨Char.ofNat byte.toNat, by rwa [IsAscii, number], ?_⟩
  calc byte = UInt8.ofNat byte.toNat := UInt8.ofNat_toNat.symm
    _ = UInt8.ofNat (Char.ofNat byte.toNat).toNat := by rw [number]

/-! ## Sequences that a reader is in -/

/-- A reader can be in this sequence: it has read a leading byte and some of the bytes behind it. -/
def Pending.Reached (pending : Pending) : Prop :=
  0x80 ≤ pending.least ∧ ∃ first initial inner, Leads first initial ∧
    ∀ done text, decodeFrom done (some initial) (inner ++ text) =
      decodeFrom done (some pending) text

theorem Leads.reached {first : UInt8} {pending : Pending} (leads : Leads first pending) :
    pending.Reached := by
  refine ⟨?_, first, pending, [], leads, fun _ _ => rfl⟩
  cases leads with
  | two => exact UInt8.le_refl 0x80
  | three =>
    dsimp only
    split <;> decide
  | four =>
    dsimp only
    split <;> decide

namespace Pending.Reached

variable {pending longer : Pending} {byte : UInt8} {letter : Char}

theorem next (reached : pending.Reached) (waits : pending.next byte = .wait longer) :
    longer.Reached := by
  obtain ⟨-, first, initial, inner, leads, same⟩ := reached
  constructor
  · rw [Pending.next] at waits
    split at waits
    · dsimp only at waits
      split at waits
      · cases waits
      · cases waits
        exact UInt8.le_refl 0x80
    · cases waits
  · refine ⟨first, initial, inner ++ [byte], leads, fun done text => ?_⟩
    rw [List.append_assoc, same, List.singleton_append, decodeFrom, waits]

theorem next_toUInt8 (reached : pending.Reached) (ascii : IsAscii letter) :
    pending.next letter.toUInt8 = .reject := by
  have below := UInt8.lt_of_lt_of_le (toUInt8_lt ascii) reached.1
  rw [Pending.next, if_neg fun inside => UInt8.lt_irrefl _ (UInt8.lt_of_lt_of_le below inside.1)]

/-- A sequence comes to a character of several bytes: the one that is written as this sequence. -/
theorem not_isAscii_of_emit (reached : pending.Reached) (emits : pending.next byte = .emit letter) :
    ¬ IsAscii letter := by
  intro ascii
  obtain ⟨-, first, initial, inner, leads, same⟩ := reached
  have read : decodeFrom #[] (some initial) (inner ++ [byte]) = .ok [letter] := by
    rw [same, decodeFrom, emits]
    rfl
  obtain ⟨whole, rest, written, onward⟩ := exists_of_decodeFrom_lead leads read
  obtain ⟨more, all, rfl⟩ := exists_of_decodeFrom onward
  obtain ⟨rfl, rfl⟩ : letter = whole ∧ more = [] := by simpa [eq_comm] using all
  have lengths := congrArg List.length written
  rw [utf8EncodeChar_of_one ascii] at lengths
  simp at lengths

end Pending.Reached

theorem not_isAscii_of_lead {byte : UInt8} {letter : Char} (high : 0x80 ≤ byte)
    (emits : lead byte = .emit letter) : ¬ IsAscii letter := by
  intro ascii
  have written := utf8EncodeChar_of_lead_emit emits
  rw [utf8EncodeChar_of_one ascii] at written
  obtain rfl : letter.toUInt8 = byte := List.singleton_inj.mp written
  exact UInt8.lt_irrefl _ (UInt8.lt_of_lt_of_le (toUInt8_lt ascii) high)

theorem not_isAscii_replacement : ¬ IsAscii replacement := by
  decide

/-! ## Readers of every text -/

namespace Decoder

variable {decoder : Decoder} {byte : UInt8} {letter : Char}

/-- The reader is between two sequences, or in one that can be reached. -/
def Sound (decoder : Decoder) : Prop :=
  ∀ pending ∈ decoder.pending, pending.Reached

theorem sound_begin (done : Array Char) (byte : UInt8) : (begin done byte).Sound := by
  intro pending member
  unfold begin at member
  split at member
  · cases member
  · rename_i led move
    obtain rfl : led = pending := by simpa using member
    exact (leads_of_lead move).reached
  · cases member

theorem Sound.feed (sound : decoder.Sound) (byte : UInt8) : (decoder.feed byte).Sound := by
  unfold Decoder.feed
  split
  · exact sound_begin _ _
  · rename_i pending inside
    split
    · nofun
    · rename_i longer waits
      intro other member
      obtain rfl : longer = other := by simpa using member
      exact (sound pending inside).next waits
    · exact sound_begin _ _

theorem Sound.foldl (sound : decoder.Sound) (text : Bytes) :
    (text.foldl Decoder.feed decoder).Sound := by
  induction text generalizing decoder with
  | nil => exact sound
  | cons byte text ih => exact ih (sound.feed byte)

/-- An ASCII byte finishes what was read before it and adds its letter. -/
theorem Sound.feed_toUInt8 (sound : decoder.Sound) (ascii : IsAscii letter) :
    decoder.feed letter.toUInt8 = ⟨(decoder.finish ++ [letter]).toArray, none⟩ := by
  obtain ⟨done, pending⟩ := decoder
  cases pending with
  | none =>
    simp only [Decoder.feed, begin, lead_toUInt8 ascii, finish]
    rw [← Array.toList_push, Array.toArray_toList]
  | some pending =>
    have refused := (sound pending rfl).next_toUInt8 ascii
    simp only [Decoder.feed, refused, begin, lead_toUInt8 ascii, finish]
    rw [← Array.toList_push, Array.toArray_toList]

/-- The reader with letters in front of those that it has read. -/
def after (front : List Char) (decoder : Decoder) : Decoder :=
  ⟨(front ++ decoder.done.toList).toArray, decoder.pending⟩

theorem finish_after (front : List Char) (decoder : Decoder) :
    (decoder.after front).finish = front ++ decoder.finish := by
  unfold finish after
  split <;> simp_all

theorem feed_after (front : List Char) (decoder : Decoder) (byte : UInt8) :
    (decoder.after front).feed byte = (decoder.feed byte).after front := by
  obtain ⟨done, pending⟩ := decoder
  have begun (done : Array Char) :
      begin (front ++ done.toList).toArray byte = (begin done byte).after front := by
    unfold begin after
    split <;> simp
  cases pending with
  | none => exact begun done
  | some pending =>
    simp only [Decoder.feed, after]
    split
    · simp
    · rfl
    · have pushed := begun (done.push replacement)
      simpa [after] using pushed

/-- What was read before has no influence on what is read from there. -/
theorem foldl_after (front : List Char) (decoder : Decoder) (text : Bytes) :
    text.foldl Decoder.feed (decoder.after front) =
      (text.foldl Decoder.feed decoder).after front := by
  induction text generalizing decoder with
  | nil => rfl
  | cons byte text ih => rw [List.foldl_cons, List.foldl_cons, feed_after, ih]

/-- A byte that was read shows, if only as a mark. -/
theorem finish_feed_ne_nil (decoder : Decoder) (byte : UInt8) :
    (decoder.feed byte).finish ≠ [] := by
  have begun (done : Array Char) : (begin done byte).finish ≠ [] := by
    unfold begin
    split <;> simp [finish]
  unfold Decoder.feed
  split
  · exact begun _
  · split
    · simp [finish]
    · simp [finish]
    · exact begun _

/-- The reader has read no ASCII letter. It may be in the middle of a sequence, whose bytes are all
beyond ASCII. -/
def Foreign (decoder : Decoder) : Prop :=
  decoder.Sound ∧ ∀ letter ∈ decoder.done, ¬ IsAscii letter

theorem foreign_begin {done : Array Char} (foreign : ∀ letter ∈ done, ¬ IsAscii letter)
    (high : 0x80 ≤ byte) : (begin done byte).Foreign := by
  refine ⟨sound_begin done byte, fun letter member => ?_⟩
  unfold begin at member
  split at member
  · rename_i emits
    rcases Array.mem_push.mp member with earlier | rfl
    · exact foreign letter earlier
    · exact not_isAscii_of_lead high emits
  · exact foreign letter member
  · rcases Array.mem_push.mp member with earlier | rfl
    · exact foreign letter earlier
    · exact not_isAscii_replacement

theorem Foreign.feed (foreign : decoder.Foreign) (high : 0x80 ≤ byte) :
    (decoder.feed byte).Foreign := by
  obtain ⟨sound, others⟩ := foreign
  refine ⟨sound.feed byte, ?_⟩
  unfold Decoder.feed
  split
  · exact (foreign_begin others high).2
  · rename_i pending inside
    split
    · rename_i emits
      intro letter member
      rcases Array.mem_push.mp member with earlier | rfl
      · exact others letter earlier
      · exact (sound pending inside).not_isAscii_of_emit emits
    · exact others
    · refine (foreign_begin (fun letter member => ?_) high).2
      rcases Array.mem_push.mp member with earlier | rfl
      · exact others letter earlier
      · exact not_isAscii_replacement

theorem Foreign.foldl (foreign : decoder.Foreign) {text : Bytes}
    (high : ∀ byte ∈ text, 0x80 ≤ byte) : (text.foldl Decoder.feed decoder).Foreign := by
  induction text generalizing decoder with
  | nil => exact foreign
  | cons byte text ih =>
    exact ih (foreign.feed (high byte (by simp))) fun other member => high other (by simp [member])

theorem Foreign.not_isAscii_of_mem_finish (foreign : decoder.Foreign) :
    ∀ letter ∈ decoder.finish, ¬ IsAscii letter := by
  intro letter member
  unfold finish at member
  split at member
  · exact foreign.2 letter (by simpa using member)
  · rcases Array.mem_push.mp (Array.mem_toList_iff.mp member) with earlier | rfl
    · exact foreign.2 letter earlier
    · exact not_isAscii_replacement

theorem foreign_start : start.Foreign :=
  ⟨nofun, by simp [start]⟩

end Decoder

/-! ## Decoded texts -/

variable {front behind letters : List Char} {letter : Char}

/-- An ASCII byte cuts a text in two parts that are decoded apart. -/
theorem decodeLossy_append_cons (ascii : IsAscii letter) (text rest : Bytes) :
    decodeLossy (text ++ letter.toUInt8 :: rest) =
      decodeLossy text ++ letter :: decodeLossy rest := by
  have sound := Decoder.foreign_start.1.foldl text
  have cut : (text.foldl Decoder.feed .start).feed letter.toUInt8 =
      Decoder.start.after (decodeLossy text ++ [letter]) := by
    rw [sound.feed_toUInt8 ascii, decodeLossy, Decoder.after, Decoder.start]
    simp
  rw [decodeLossy, List.foldl_append, List.foldl_cons, cut, Decoder.foldl_after,
    Decoder.finish_after, ← decodeLossy, List.append_assoc, List.singleton_append]

theorem decodeLossy_cons (ascii : IsAscii letter) (rest : Bytes) :
    decodeLossy (letter.toUInt8 :: rest) = letter :: decodeLossy rest :=
  decodeLossy_append_cons ascii [] rest

theorem decodeLossy_map_append (ascii : ∀ letter ∈ letters, IsAscii letter) (rest : Bytes) :
    decodeLossy (letters.map Char.toUInt8 ++ rest) = letters ++ decodeLossy rest := by
  induction letters with
  | nil => rfl
  | cons letter letters ih =>
    rw [List.map_cons, List.cons_append, decodeLossy_cons (ascii letter (by simp)),
      ih fun other member => ascii other (by simp [member]), List.cons_append]

theorem not_isAscii_of_mem_decodeLossy {text : Bytes} (high : ∀ byte ∈ text, 0x80 ≤ byte) :
    ∀ letter ∈ decodeLossy text, ¬ IsAscii letter :=
  (Decoder.foreign_start.foldl high).not_isAscii_of_mem_finish

theorem eq_nil_of_decodeLossy_eq_nil {text : Bytes} (nothing : decodeLossy text = []) :
    text = [] := by
  rcases List.eq_nil_or_concat text with empty | ⟨most, last, rfl⟩
  · exact empty
  · rw [decodeLossy, List.concat_eq_append, List.foldl_append] at nothing
    exact absurd nothing (Decoder.finish_feed_ne_nil _ last)

/-- A text is beyond ASCII, or it has a first ASCII byte. -/
theorem exists_first_ascii (text : Bytes) :
    ∃ high, (∀ byte ∈ high, 0x80 ≤ byte) ∧
      (text = high ∨ ∃ letter rest, IsAscii letter ∧ text = high ++ letter.toUInt8 :: rest) := by
  induction text with
  | nil => exact ⟨[], by simp, .inl rfl⟩
  | cons byte text ih =>
    by_cases small : byte < 0x80
    · obtain ⟨letter, ascii, rfl⟩ := exists_isAscii_of_lt small
      exact ⟨[], by simp, .inr ⟨letter, text, ascii, rfl⟩⟩
    · obtain ⟨high, above, split⟩ := ih
      refine ⟨byte :: high, List.forall_mem_cons.mpr ⟨UInt8.not_lt.mp small, above⟩, ?_⟩
      rcases split with rfl | ⟨letter, rest, ascii, rfl⟩
      · exact .inl rfl
      · exact .inr ⟨letter, rest, ascii, rfl⟩

/-- Where an ASCII letter was decoded, its byte stands in the text. The induction is on the length
of the text, which is gone through from one ASCII byte to the next. -/
theorem exists_of_decodeLossy_eq_append_cons {text : Bytes} (ascii : IsAscii letter)
    (decoded : decodeLossy text = front ++ letter :: behind) :
    ∃ before rest, text = before ++ letter.toUInt8 :: rest ∧
      decodeLossy before = front ∧ decodeLossy rest = behind := by
  induction size : text.length using Nat.strongRecOn generalizing text front with
  | ind bound ih =>
    obtain ⟨high, above, rfl | ⟨first, rest, small, rfl⟩⟩ := exists_first_ascii text
    · exact absurd ascii (not_isAscii_of_mem_decodeLossy above letter (by simp [decoded]))
    have foreign : letter ∉ decodeLossy high := fun member =>
      not_isAscii_of_mem_decodeLossy above letter member ascii
    rw [decodeLossy_append_cons small] at decoded
    rcases List.append_eq_append_iff.mp decoded with ⟨more, rfl, split⟩ | ⟨more, split, split'⟩
    · cases more with
      | nil =>
        obtain ⟨rfl, rfl⟩ := List.cons.inj split
        exact ⟨high, rest, rfl, by simp, rfl⟩
      | cons second more =>
        obtain ⟨rfl, onward⟩ := List.cons.inj split
        have shorter : rest.length < bound := by
          rw [← size, List.length_append, List.length_cons]
          omega
        obtain ⟨before, behind, rfl, rfl, rfl⟩ := ih rest.length shorter onward rfl
        refine ⟨high ++ first.toUInt8 :: before, behind, by simp, ?_, rfl⟩
        rw [decodeLossy_append_cons small]
    · cases more with
      | nil =>
        obtain ⟨rfl, rfl⟩ := List.cons.inj split'
        exact ⟨high, rest, rfl, by simpa using split, rfl⟩
      | cons second more =>
        obtain ⟨rfl, -⟩ := List.cons.inj split'
        exact absurd (by simp [split]) foreign

/-- The ASCII letters of a decoded text are those whose bytes stand in the text. -/
theorem mem_decodeLossy_iff {text : Bytes} (ascii : IsAscii letter) :
    letter ∈ decodeLossy text ↔ letter.toUInt8 ∈ text := by
  constructor
  · intro member
    obtain ⟨front, behind, decoded⟩ := List.append_of_mem member
    obtain ⟨before, rest, rfl, -, -⟩ := exists_of_decodeLossy_eq_append_cons ascii decoded
    simp
  · intro member
    obtain ⟨before, rest, rfl⟩ := List.append_of_mem member
    rw [decodeLossy_append_cons ascii]
    simp

/-- Where ASCII letters begin a decoded text, their bytes begin the text. -/
theorem exists_of_decodeLossy_eq_append {text : Bytes} (ascii : ∀ letter ∈ front, IsAscii letter)
    (decoded : decodeLossy text = front ++ behind) :
    ∃ rest, text = front.map Char.toUInt8 ++ rest ∧ decodeLossy rest = behind := by
  induction front generalizing text with
  | nil => exact ⟨text, rfl, decoded⟩
  | cons letter front ih =>
    rw [List.cons_append, ← List.nil_append (letter :: _)] at decoded
    obtain ⟨before, rest, rfl, nothing, onward⟩ :=
      exists_of_decodeLossy_eq_append_cons (ascii letter (by simp)) decoded
    obtain rfl := eq_nil_of_decodeLossy_eq_nil nothing
    obtain ⟨rest, rfl, behind⟩ := ih (fun other member => ascii other (by simp [member])) onward
    exact ⟨rest, rfl, behind⟩

end UnityBuild.Utf8
