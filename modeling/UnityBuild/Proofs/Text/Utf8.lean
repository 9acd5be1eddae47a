import UnityBuild.Text.Utf8

/-!
# Decoding what was encoded

The bytes of a character lead a reader through one sequence and back to where it can begin another.
A leading byte announces as many bytes as there are, and the ranges that it sets for the second byte
are met because no character is written longer than needed, is a surrogate, or lies above the last
character. So the bytes of any characters are decoded into these characters.
-/

namespace UnityBuild.Utf8

def bytes (letters : List Char) : Bytes :=
  letters.flatMap String.utf8EncodeChar

@[simp] theorem bytes_nil : bytes [] = [] := rfl

@[simp] theorem bytes_cons (letter : Char) (letters : List Char) :
    bytes (letter :: letters) = String.utf8EncodeChar letter ++ bytes letters := rfl

@[simp] theorem bytes_append (left right : List Char) :
    bytes (left ++ right) = bytes left ++ bytes right :=
  List.flatMap_append

/-! ## Written forms -/

/-- A character is no surrogate and not above the last character. -/
theorem valid_toNat (letter : Char) :
    letter.toNat < 0xD800 ∨ 0xDFFF < letter.toNat ∧ letter.toNat < 0x110000 :=
  letter.valid

section Forms

variable {letter : Char}

theorem utf8EncodeChar_of_one (h : letter.toNat < 0x80) :
    String.utf8EncodeChar letter = [UInt8.ofNat letter.toNat] := by
  rw [String.utf8EncodeChar]
  exact if_pos (Nat.le_of_lt_succ h)

theorem utf8EncodeChar_of_two (least : 0x80 ≤ letter.toNat) (below : letter.toNat < 0x800) :
    String.utf8EncodeChar letter =
      [UInt8.ofNat (letter.toNat / 64 + 0xC0), UInt8.ofNat (letter.toNat % 64 + 0x80)] := by
  have upper : letter.toNat / 64 % 32 = letter.toNat / 64 := by omega
  rw [← upper, String.utf8EncodeChar]
  exact (if_neg (Nat.not_le_of_lt least)).trans (if_pos (Nat.le_of_lt_succ below))

theorem utf8EncodeChar_of_three (least : 0x800 ≤ letter.toNat) (below : letter.toNat < 0x10000) :
    String.utf8EncodeChar letter =
      [UInt8.ofNat (letter.toNat / 4096 + 0xE0), UInt8.ofNat (letter.toNat / 64 % 64 + 0x80),
        UInt8.ofNat (letter.toNat % 64 + 0x80)] := by
  have upper : letter.toNat / 4096 % 16 = letter.toNat / 4096 := by omega
  have long : ¬ letter.toNat ≤ 0x7F := by omega
  rw [← upper, String.utf8EncodeChar]
  exact (if_neg long).trans
    ((if_neg (Nat.not_le_of_lt least)).trans (if_pos (Nat.le_of_lt_succ below)))

theorem utf8EncodeChar_of_four (least : 0x10000 ≤ letter.toNat) :
    String.utf8EncodeChar letter =
      [UInt8.ofNat (letter.toNat / 262144 + 0xF0), UInt8.ofNat (letter.toNat / 4096 % 64 + 0x80),
        UInt8.ofNat (letter.toNat / 64 % 64 + 0x80), UInt8.ofNat (letter.toNat % 64 + 0x80)] := by
  have valid := valid_toNat letter
  have upper : letter.toNat / 262144 % 8 = letter.toNat / 262144 := by omega
  have long : ¬ letter.toNat ≤ 0x7F := by omega
  have longer : ¬ letter.toNat ≤ 0x7FF := by omega
  rw [← upper, String.utf8EncodeChar]
  exact (if_neg long).trans ((if_neg longer).trans (if_neg (Nat.not_le_of_lt least)))

theorem le_of_mem_utf8EncodeChar (least : 0x80 ≤ letter.toNat) {byte : UInt8}
    (member : byte ∈ String.utf8EncodeChar letter) : 0x80 ≤ byte := by
  have valid := valid_toNat letter
  rw [UInt8.le_iff_toNat_le]
  by_cases two : letter.toNat < 0x800
  · rw [utf8EncodeChar_of_two least two] at member
    simp only [List.mem_cons, List.not_mem_nil, or_false] at member
    rcases member with rfl | rfl <;> simp only [UInt8.toNat_ofNat', UInt8.reduceToNat] <;> omega
  by_cases three : letter.toNat < 0x10000
  · rw [utf8EncodeChar_of_three (by omega) three] at member
    simp only [List.mem_cons, List.not_mem_nil, or_false] at member
    rcases member with rfl | rfl | rfl <;>
      simp only [UInt8.toNat_ofNat', UInt8.reduceToNat] <;> omega
  · rw [utf8EncodeChar_of_four (by omega)] at member
    simp only [List.mem_cons, List.not_mem_nil, or_false] at member
    rcases member with rfl | rfl | rfl | rfl <;>
      simp only [UInt8.toNat_ofNat', UInt8.reduceToNat] <;> omega

end Forms

/-! ## Leading bytes -/

theorem lead_of_ascii : ∀ number < 0x80,
    lead (UInt8.ofNat number) = .emit (Char.ofNat number) := by
  decide

/-- A leading byte of two holds the upper five bits. The number one or zero would fit in one byte.
-/
theorem lead_of_two : ∀ number < 0x20, 2 ≤ number →
    lead (UInt8.ofNat (number + 0xC0)) = .wait ⟨number, 1, 1, 0x80, 0xBF⟩ := by
  decide

theorem lead_of_three : ∀ number < 0x10,
    lead (UInt8.ofNat (number + 0xE0)) = .wait ⟨number, 1, 2,
      if number = 0 then 0xA0 else 0x80, if number = 0xD then 0x9F else 0xBF⟩ := by
  decide

theorem lead_of_four : ∀ number < 5,
    lead (UInt8.ofNat (number + 0xF0)) = .wait ⟨number, 1, 3,
      if number = 0 then 0x90 else 0x80, if number = 4 then 0x8F else 0xBF⟩ := by
  decide

/-! ## Continuation bytes -/

/-- A continuation byte in the range that is set for it adds its six bits. -/
theorem next_of_tail {pending : Pending} {number : Nat} (small : number < 64)
    (least : pending.least.toNat ≤ number + 0x80)
    (greatest : number + 0x80 ≤ pending.greatest.toNat) :
    pending.next (UInt8.ofNat (number + 0x80)) =
      if pending.owed ≤ 1 then .emit (Char.ofNat (pending.bits * 64 + number))
      else .wait ⟨pending.bits * 64 + number, pending.read + 1, pending.owed - 1, 0x80, 0xBF⟩ := by
  have value : (UInt8.ofNat (number + 0x80)).toNat = number + 0x80 := by
    simp only [UInt8.toNat_ofNat']
    omega
  have bits : (number + 0x80) % 64 = number := by omega
  have inside : pending.least ≤ UInt8.ofNat (number + 0x80) ∧
      UInt8.ofNat (number + 0x80) ≤ pending.greatest := by
    rw [UInt8.le_iff_toNat_le, UInt8.le_iff_toNat_le, value]
    exact ⟨least, greatest⟩
  rw [Pending.next, if_pos inside, value, bits]

theorem decodeFrom_of_last {bits read number : Nat} (small : number < 64) (done : Array Char)
    (rest : Bytes) :
    decodeFrom done (some ⟨bits, read, 1, 0x80, 0xBF⟩) (UInt8.ofNat (number + 0x80) :: rest) =
      decodeFrom (done.push (Char.ofNat (bits * 64 + number))) none rest := by
  rw [decodeFrom, next_of_tail small (Nat.le_add_left ..) (by simp; omega)]
  simp

/-- A continuation byte that is not the last one is followed by one of any six bits. -/
theorem decodeFrom_of_inner {bits read owed number : Nat} {least greatest : UInt8}
    (small : number < 64) (least_le : least.toNat ≤ number + 0x80)
    (le_greatest : number + 0x80 ≤ greatest.toNat) (done : Array Char) (rest : Bytes) :
    decodeFrom done (some ⟨bits, read, owed + 2, least, greatest⟩)
        (UInt8.ofNat (number + 0x80) :: rest) =
      decodeFrom done (some ⟨bits * 64 + number, read + 1, owed + 1, 0x80, 0xBF⟩) rest := by
  rw [decodeFrom, next_of_tail small least_le le_greatest]
  simp

/-! ## Characters -/

theorem decodeFrom_utf8EncodeChar (done : Array Char) (letter : Char) (rest : Bytes) :
    decodeFrom done none (String.utf8EncodeChar letter ++ rest) =
      decodeFrom (done.push letter) none rest := by
  have valid := valid_toNat letter
  have whole : Char.ofNat letter.toNat = letter := Char.ofNat_toNat letter
  by_cases one : letter.toNat < 0x80
  · rw [utf8EncodeChar_of_one one, List.singleton_append, decodeFrom, lead_of_ascii _ one, whole]
  by_cases two : letter.toNat < 0x800
  · have joined : letter.toNat / 64 * 64 + letter.toNat % 64 = letter.toNat := by omega
    rw [utf8EncodeChar_of_two (by omega) two, List.cons_append, decodeFrom,
      lead_of_two _ (by omega) (by omega)]
    simp only [List.singleton_append]
    rw [decodeFrom_of_last (by omega), joined, whole]
  by_cases three : letter.toNat < 0x10000
  · have joined : (letter.toNat / 4096 * 64 + letter.toNat / 64 % 64) * 64 + letter.toNat % 64 =
        letter.toNat := by omega
    rw [utf8EncodeChar_of_three (by omega) three, List.cons_append, decodeFrom,
      lead_of_three _ (by omega)]
    simp only [List.cons_append, List.nil_append]
    rw [decodeFrom_of_inner (by omega) ?least ?greatest, decodeFrom_of_last (by omega), joined,
      whole]
    case least =>
      split
      · change 0xA0 ≤ _
        omega
      · exact Nat.le_add_left ..
    case greatest =>
      split
      · change _ ≤ 0x9F
        omega
      · change _ ≤ 0xBF
        omega
  · have joined : ((letter.toNat / 262144 * 64 + letter.toNat / 4096 % 64) * 64 +
        letter.toNat / 64 % 64) * 64 + letter.toNat % 64 = letter.toNat := by omega
    rw [utf8EncodeChar_of_four (by omega), List.cons_append, decodeFrom,
      lead_of_four _ (by omega)]
    simp only [List.cons_append, List.nil_append]
    rw [decodeFrom_of_inner (by omega) ?least ?greatest,
      decodeFrom_of_inner (by omega) (Nat.le_add_left ..) (show _ ≤ 0xBF by omega),
      decodeFrom_of_last (by omega), joined, whole]
    case least =>
      split
      · change 0x90 ≤ _
        omega
      · exact Nat.le_add_left ..
    case greatest =>
      split
      · change _ ≤ 0x8F
        omega
      · change _ ≤ 0xBF
        omega

/-- The bytes of characters are decoded into these characters. -/
theorem decodeFrom_bytes (done : Array Char) (letters : List Char) :
    decodeFrom done none (bytes letters) = .ok (done.toList ++ letters) := by
  induction letters generalizing done with
  | nil => simp [decodeFrom]
  | cons letter letters ih =>
    rw [bytes_cons, decodeFrom_utf8EncodeChar, ih]
    simp

theorem decode_bytes (letters : List Char) : decode (bytes letters) = .ok letters := by
  rw [decode, decodeFrom_bytes]
  simp

end UnityBuild.Utf8
