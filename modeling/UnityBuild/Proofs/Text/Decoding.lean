import UnityBuild.Proofs.Text.Utf8

/-!
# Encoding what was decoded

A text that is decoded without a fault consists of the bytes of the characters it is decoded into. A
leading byte settles how many bytes follow, and the ranges of the second byte leave out the numbers
that would be written shorter, are surrogates, or are too large. So every sequence that a reader
takes for a character is the one in which this character is written.
-/

namespace UnityBuild.Utf8

variable {done : Array Char} {letters : List Char}

/-! ## Sequences -/

theorem toNat_ofNat_of_valid {number : Nat}
    (valid : number < 0xD800 ∨ 0xDFFF < number ∧ number < 0x110000) :
    (Char.ofNat number).toNat = number := by
  rw [Char.ofNat, dif_pos valid]
  rfl

/-- A character that one byte completes is written as this byte. -/
theorem utf8EncodeChar_of_lead_emit {byte : UInt8} {letter : Char}
    (h : lead byte = .emit letter) : String.utf8EncodeChar letter = [byte] := by
  unfold lead at h
  split at h
  · rename_i ascii
    cases h
    have small : byte.toNat < 0x80 := UInt8.lt_iff_toNat_lt.mp ascii
    have number := toNat_ofNat_of_valid (.inl (by omega) : byte.toNat < 0xD800 ∨ _)
    rw [utf8EncodeChar_of_one (by omega), number, UInt8.ofNat_toNat]
  · repeat' split at h
    all_goals cases h

/-- The leading bytes of two, three and four, with what they make a reader wait for. -/
inductive Leads : UInt8 → Pending → Prop
  | two {number : Nat} (least : 2 ≤ number) (below : number < 0x20) :
      Leads (UInt8.ofNat (number + 0xC0)) ⟨number, 1, 1, 0x80, 0xBF⟩
  | three {number : Nat} (below : number < 0x10) :
      Leads (UInt8.ofNat (number + 0xE0)) ⟨number, 1, 2,
        if number = 0 then 0xA0 else 0x80, if number = 0xD then 0x9F else 0xBF⟩
  | four {number : Nat} (below : number < 5) :
      Leads (UInt8.ofNat (number + 0xF0)) ⟨number, 1, 3,
        if number = 0 then 0x90 else 0x80, if number = 4 then 0x8F else 0xBF⟩

/-- A leading byte is the mark of its length and the bits above the mark. -/
theorem ofNat_toNat_sub_add {byte : UInt8} {mark : Nat} (above : mark ≤ byte.toNat) :
    UInt8.ofNat (byte.toNat - mark + mark) = byte := by
  rw [Nat.sub_add_cancel above, UInt8.ofNat_toNat]

theorem leads_led_two {byte : UInt8} (least : 0xC2 ≤ byte.toNat) (below : byte.toNat < 0xE0) :
    Leads byte (.led byte 1 0x80 0xBF) := by
  have bits : byte.toNat % Nat.pow 2 5 = byte.toNat - 0xC0 := by
    show byte.toNat % 32 = _
    omega
  have leads := @Leads.two (byte.toNat - 0xC0) (by omega) (by omega)
  rw [ofNat_toNat_sub_add (by omega), ← bits] at leads
  exact leads

theorem leads_led_three {byte : UInt8} (least : 0xE0 < byte.toNat) (below : byte.toNat < 0xF0)
    (noSurrogate : byte.toNat ≠ 0xED) : Leads byte (.led byte 2 0x80 0xBF) := by
  have bits : byte.toNat % Nat.pow 2 4 = byte.toNat - 0xE0 := by
    show byte.toNat % 16 = _
    omega
  have leads := @Leads.three (byte.toNat - 0xE0) (by omega)
  rw [ofNat_toNat_sub_add (by omega), if_neg (by omega), if_neg (by omega), ← bits] at leads
  exact leads

theorem leads_led_four {byte : UInt8} (least : 0xF0 < byte.toNat) (below : byte.toNat < 0xF4) :
    Leads byte (.led byte 3 0x80 0xBF) := by
  have bits : byte.toNat % Nat.pow 2 3 = byte.toNat - 0xF0 := by
    show byte.toNat % 8 = _
    omega
  have leads := @Leads.four (byte.toNat - 0xF0) (by omega)
  rw [ofNat_toNat_sub_add (by omega), if_neg (by omega), if_neg (by omega), ← bits] at leads
  exact leads

theorem leads_of_lead {byte : UInt8} {pending : Pending} (h : lead byte = .wait pending) :
    Leads byte pending := by
  have apart {other : UInt8} (ne : byte ≠ other) : byte.toNat ≠ other.toNat :=
    mt UInt8.toNat_inj.mp ne
  unfold lead at h
  simp only [UInt8.lt_iff_toNat_lt] at h
  -- The tests of a leading byte, in their order.
  split at h
  · cases h
  split at h
  · cases h
  rename_i stray
  split at h
  · rename_i two
    cases h
    exact leads_led_two (Nat.le_of_not_lt stray) two
  rename_i two
  split at h
  · rename_i least
    subst least
    cases h
    exact @Leads.three 0 (by decide)
  rename_i least
  split at h
  · rename_i surrogate
    subst surrogate
    cases h
    exact @Leads.three 0xD (by decide)
  rename_i surrogate
  split at h
  · rename_i three
    cases h
    exact leads_led_three (Nat.lt_of_le_of_ne (Nat.le_of_not_lt two) (apart least).symm) three
      (apart surrogate)
  rename_i three
  split at h
  · rename_i wide
    subst wide
    cases h
    exact @Leads.four 0 (by decide)
  rename_i wide
  split at h
  · rename_i four
    cases h
    exact leads_led_four (Nat.lt_of_le_of_ne (Nat.le_of_not_lt three) (apart wide).symm) four
  split at h
  · rename_i last
    subst last
    cases h
    exact @Leads.four 4 (by decide)
  · cases h

/-- Inside a sequence, a reader succeeds with a byte in its range only. -/
theorem exists_of_decodeFrom_some {pending : Pending} {text : Bytes}
    (h : decodeFrom done (some pending) text = .ok letters) (least : 0x80 ≤ pending.least.toNat)
    (greatest : pending.greatest.toNat ≤ 0xBF) :
    ∃ number < 64, pending.least.toNat ≤ number + 0x80 ∧ number + 0x80 ≤ pending.greatest.toNat ∧
      ∃ rest, text = UInt8.ofNat (number + 0x80) :: rest := by
  cases text with
  | nil => cases h
  | cons byte rest =>
    have inside : pending.least ≤ byte ∧ byte ≤ pending.greatest := by
      refine Decidable.byContradiction fun outside => ?_
      rw [decodeFrom, Pending.next, if_neg outside] at h
      cases h
    rw [UInt8.le_iff_toNat_le, UInt8.le_iff_toNat_le] at inside
    refine ⟨byte.toNat - 0x80, by omega, by omega, by omega, rest, ?_⟩
    rw [Nat.sub_add_cancel (by omega), UInt8.ofNat_toNat]

/-- A sequence that is decoded is the one in which its character is written. -/
theorem exists_of_decodeFrom_lead {byte : UInt8} {pending : Pending} {text : Bytes}
    (leads : Leads byte pending) (h : decodeFrom done (some pending) text = .ok letters) :
    ∃ letter rest, byte :: text = String.utf8EncodeChar letter ++ rest ∧
      decodeFrom (done.push letter) none rest = .ok letters := by
  cases leads with
  | @two number least below =>
    obtain ⟨last, small, -, -, rest, rfl⟩ :=
      exists_of_decodeFrom_some h (Nat.le_refl 0x80) (Nat.le_refl 0xBF)
    have whole := toNat_ofNat_of_valid (.inl (by omega) : number * 64 + last < 0xD800 ∨ _)
    rw [decodeFrom_of_last small] at h
    refine ⟨Char.ofNat (number * 64 + last), rest, ?_, h⟩
    rw [utf8EncodeChar_of_two (by omega) (by omega), whole,
      show (number * 64 + last) / 64 = number by omega,
      show (number * 64 + last) % 64 = last by omega]
    rfl
  | @three number below =>
    obtain ⟨middle, small, least, greatest, rest, rfl⟩ :=
      exists_of_decodeFrom_some h (by dsimp only; split <;> decide)
        (by dsimp only; split <;> decide)
    have long : number = 0 → 0xA0 ≤ middle + 0x80 := by
      rintro rfl
      exact least
    have noSurrogate : number = 0xD → middle + 0x80 ≤ 0x9F := by
      rintro rfl
      exact greatest
    rw [decodeFrom_of_inner small least greatest] at h
    obtain ⟨last, small', -, -, rest, rfl⟩ :=
      exists_of_decodeFrom_some h (Nat.le_refl 0x80) (Nat.le_refl 0xBF)
    rw [decodeFrom_of_last small'] at h
    have whole := toNat_ofNat_of_valid (show (number * 64 + middle) * 64 + last < 0xD800 ∨
      0xDFFF < (number * 64 + middle) * 64 + last ∧
        (number * 64 + middle) * 64 + last < 0x110000 by omega)
    refine ⟨Char.ofNat ((number * 64 + middle) * 64 + last), rest, ?_, h⟩
    rw [utf8EncodeChar_of_three (by omega) (by omega), whole,
      show ((number * 64 + middle) * 64 + last) / 4096 = number by omega,
      show ((number * 64 + middle) * 64 + last) / 64 % 64 = middle by omega,
      show ((number * 64 + middle) * 64 + last) % 64 = last by omega]
    rfl
  | @four number below =>
    obtain ⟨second, small, least, greatest, rest, rfl⟩ :=
      exists_of_decodeFrom_some h (by dsimp only; split <;> decide)
        (by dsimp only; split <;> decide)
    have long : number = 0 → 0x90 ≤ second + 0x80 := by
      rintro rfl
      exact least
    have notAbove : number = 4 → second + 0x80 ≤ 0x8F := by
      rintro rfl
      exact greatest
    rw [decodeFrom_of_inner small least greatest] at h
    obtain ⟨third, small', least', greatest', rest, rfl⟩ :=
      exists_of_decodeFrom_some h (Nat.le_refl 0x80) (Nat.le_refl 0xBF)
    rw [decodeFrom_of_inner small' least' greatest'] at h
    obtain ⟨last, small'', -, -, rest, rfl⟩ :=
      exists_of_decodeFrom_some h (Nat.le_refl 0x80) (Nat.le_refl 0xBF)
    rw [decodeFrom_of_last small''] at h
    have whole := toNat_ofNat_of_valid
      (show ((number * 64 + second) * 64 + third) * 64 + last < 0xD800 ∨
        0xDFFF < ((number * 64 + second) * 64 + third) * 64 + last ∧
          ((number * 64 + second) * 64 + third) * 64 + last < 0x110000 by omega)
    refine ⟨Char.ofNat (((number * 64 + second) * 64 + third) * 64 + last), rest, ?_, h⟩
    rw [utf8EncodeChar_of_four (by omega), whole,
      show (((number * 64 + second) * 64 + third) * 64 + last) / 262144 = number by omega,
      show (((number * 64 + second) * 64 + third) * 64 + last) / 4096 % 64 = second by omega,
      show (((number * 64 + second) * 64 + third) * 64 + last) / 64 % 64 = third by omega,
      show (((number * 64 + second) * 64 + third) * 64 + last) % 64 = last by omega]
    rfl

/-- A text that is decoded begins with the bytes of a character, unless it is at its end. -/
theorem exists_of_decodeFrom_none {text : Bytes} (h : decodeFrom done none text = .ok letters) :
    (text = [] ∧ letters = done.toList) ∨
      ∃ letter rest, text = String.utf8EncodeChar letter ++ rest ∧
        decodeFrom (done.push letter) none rest = .ok letters := by
  cases text with
  | nil => exact .inl ⟨rfl, (Except.ok.inj h).symm⟩
  | cons byte rest =>
    right
    rw [decodeFrom] at h
    cases move : lead byte with
    | emit letter =>
      rw [move] at h
      exact ⟨letter, rest, by rw [utf8EncodeChar_of_lead_emit move]; rfl, h⟩
    | wait pending =>
      rw [move] at h
      exact exists_of_decodeFrom_lead (leads_of_lead move) h
    | reject =>
      rw [move] at h
      cases h

/-! ## Texts -/

/-- What is decoded is written as it was. The induction is on the length of the text, which shrinks
by the bytes of one character at a time. -/
theorem exists_of_decodeFrom {text : Bytes} (h : decodeFrom done none text = .ok letters) :
    ∃ more, letters = done.toList ++ more ∧ text = bytes more := by
  induction size : text.length using Nat.strongRecOn generalizing done text with
  | ind bound ih =>
    rcases exists_of_decodeFrom_none h with ⟨rfl, rfl⟩ | ⟨letter, rest, rfl, onward⟩
    · exact ⟨[], by simp, rfl⟩
    · have shorter : rest.length < bound := by
        have some : 0 < (String.utf8EncodeChar letter).length := by
          simp [Char.utf8Size_pos]
        rw [List.length_append] at size
        omega
      obtain ⟨more, all, rfl⟩ := ih _ shorter onward rfl
      exact ⟨letter :: more, by simpa using all, rfl⟩

/-- Decoding succeeds on the bytes of characters only, and gives these characters. So decoding and
encoding are inverse to each other. -/
theorem decode_eq_ok_iff {text : Bytes} : decode text = .ok letters ↔ text = bytes letters := by
  constructor
  · intro h
    obtain ⟨more, all, rfl⟩ := exists_of_decodeFrom h
    rw [all]
    rfl
  · rintro rfl
    exact decode_bytes letters

/-- What follows the bytes of a character in the bytes of characters are those of the others. -/
theorem bytes_cons_inj {letter first : Char} {rest : Bytes}
    (h : String.utf8EncodeChar letter ++ rest = bytes (first :: letters)) :
    letter = first ∧ rest = bytes letters := by
  have decoded : decodeFrom #[letter] none rest = .ok (first :: letters) := by
    have whole := decode_bytes (first :: letters)
    rw [← h, decode, decodeFrom_utf8EncodeChar] at whole
    exact whole
  obtain ⟨more, all, rfl⟩ := exists_of_decodeFrom decoded
  obtain ⟨rfl, rfl⟩ := List.cons.inj all
  exact ⟨rfl, rfl⟩

/-! ## Where characters begin -/

/-- A byte that goes on with a character and begins none. -/
def Continues (byte : UInt8) : Prop :=
  0x80 ≤ byte.toNat ∧ byte.toNat < 0xC0

/-- Only the first byte of a character does not continue one. -/
theorem exists_utf8EncodeChar (letter : Char) :
    ∃ first tail, String.utf8EncodeChar letter = first :: tail ∧ ¬ Continues first ∧
      ∀ byte ∈ tail, Continues byte := by
  have valid := valid_toNat letter
  by_cases one : letter.toNat < 0x80
  · refine ⟨_, _, utf8EncodeChar_of_one one, ?_, by simp⟩
    simp [Continues, UInt8.toNat_ofNat']
    omega
  by_cases two : letter.toNat < 0x800
  · refine ⟨_, _, utf8EncodeChar_of_two (by omega) two, ?_, ?_⟩
    · simp [Continues, UInt8.toNat_ofNat']
      omega
    · simp [Continues, UInt8.toNat_ofNat']
      omega
  by_cases three : letter.toNat < 0x10000
  · refine ⟨_, _, utf8EncodeChar_of_three (by omega) three, ?_, ?_⟩
    · simp [Continues, UInt8.toNat_ofNat']
      omega
    · simp [Continues, UInt8.toNat_ofNat']
      omega
  · refine ⟨_, _, utf8EncodeChar_of_four (by omega), ?_, ?_⟩
    · simp [Continues, UInt8.toNat_ofNat']
      omega
    · simp [Continues, UInt8.toNat_ofNat']
      omega

end UnityBuild.Utf8
