import UnityBuild.Proofs.Json.Grammar

/-!
# Skipping numbers

A number that nobody wants is checked for its form. It ends where the form allows no more, so what
stands behind it decides whether all of it was read: a digit, a point or an exponent would be taken
as a part of it.
-/

namespace UnityBuild.Json

/-- No digit comes next. -/
def NoDigit (text : Bytes) : Prop :=
  ∀ byte ∈ text.head?, Cursor.isDigit byte = false

/-- Nothing comes next that would go on with a number. -/
def Delimited (text : Bytes) : Prop :=
  ∀ byte ∈ text.head?, Cursor.isDigit byte = false ∧ byte ∉ [0x2E, 0x65, 0x45]

theorem Delimited.noDigit {text : Bytes} (delimited : Delimited text) : NoDigit text :=
  fun byte next => (delimited byte next).1

/-! ## Digits -/

namespace Cursor

theorem consumed_skipWhile (test : UInt8 → Bool) (consumed : Nat) (text : Bytes) :
    (skipWhile test consumed text).consumed = consumed + (text.takeWhile test).length := by
  fun_induction skipWhile test consumed text with
  | case1 => rfl
  | case2 consumed byte rest inside ih =>
    rw [ih, List.takeWhile_cons_of_pos inside, List.length_cons]
    omega
  | case3 consumed byte rest outside => rw [List.takeWhile_cons_of_neg outside]; rfl

theorem exists_skipDigits (cursor : Cursor) :
    ∃ digits, (∀ byte ∈ digits, isDigit byte = true) ∧
      cursor.rest = digits ++ cursor.skipDigits.rest ∧
      cursor.skipDigits.consumed = cursor.consumed + digits.length := by
  refine ⟨cursor.rest.takeWhile isDigit, fun byte member => ?_, ?_, consumed_skipWhile ..⟩
  · exact List.all_eq_true.mp List.all_takeWhile byte member
  · rw [skipDigits, rest_skipWhile, List.takeWhile_append_dropWhile]

theorem rest_skipDigits {cursor : Cursor} {digits rest : Bytes}
    (front : cursor.rest = digits ++ rest) (all : ∀ byte ∈ digits, isDigit byte = true)
    (ends : NoDigit rest) : cursor.skipDigits.rest = rest := by
  rw [skipDigits, rest_skipWhile, front, List.dropWhile_append_of_pos all]
  cases rest with
  | nil => rfl
  | cons byte rest => exact List.dropWhile_cons_of_neg (by simp [ends byte rfl])

end Cursor

theorem digits_cons_iff {byte : UInt8} {rest : Bytes} :
    Digits (byte :: rest) ↔
      Cursor.isDigit byte = true ∧ ∀ other ∈ rest, Cursor.isDigit other = true := by
  simp [Digits]

theorem exists_digits {cursor : Cursor} {byte : UInt8} {rest : Bytes}
    (front : cursor.rest = byte :: rest) (digit : Cursor.isDigit byte = true) :
    ∃ more, Digits (byte :: more) ∧
      cursor.rest = byte :: (more ++ (cursor.skip 1).skipDigits.rest) := by
  obtain ⟨more, all, behind, -⟩ := (cursor.skip 1).exists_skipDigits
  rw [Cursor.rest_skip_one front] at behind
  exact ⟨more, digits_cons_iff.mpr ⟨digit, all⟩, by rw [front, behind]⟩

theorem rest_skipDigits_of_digits {cursor : Cursor} {byte : UInt8} {more rest : Bytes}
    (front : cursor.rest = byte :: (more ++ rest)) (digits : Digits (byte :: more))
    (ends : NoDigit rest) : (cursor.skip 1).skipDigits.rest = rest :=
  Cursor.rest_skipDigits (by simp [front]) (digits_cons_iff.mp digits).2 ends

/-! ## What is skipped is a number -/

theorem covers_skipExponent :
    Covers skipExponent fun text =>
      ∃ sign digits, sign ∈ [[], [0x2B], [0x2D]] ∧ Digits digits ∧ text = sign ++ digits := by
  intro cursor stop h
  rw [skipExponent] at h
  obtain ⟨start, sign, listed, same, behind⟩ : ∃ start : Cursor, ∃ sign,
      sign ∈ ([[], [0x2B], [0x2D]] : List Bytes) ∧
        (if cursor.rest.head?.any (fun byte => byte == 0x2B || byte == 0x2D)
          then cursor.skip 1 else cursor) = start ∧ cursor.rest = sign ++ start.rest := by
    cases front : cursor.rest with
    | nil => exact ⟨cursor, [], by simp, rfl, by simp [front]⟩
    | cons byte rest =>
      by_cases plus : byte = 0x2B
      · exact ⟨cursor.skip 1, [byte], by simp [plus], by simp [plus], by simp [front]⟩
      by_cases minus : byte = 0x2D
      · exact ⟨cursor.skip 1, [byte], by simp [minus], by simp [minus], by simp [front]⟩
      · exact ⟨cursor, [], by simp, by simp [plus, minus], by simp [front]⟩
  simp only [same] at h
  split at h
  · cases h
  · rename_i byte rest front
    split at h
    · rename_i digit
      cases h
      obtain ⟨more, digits, last⟩ := exists_digits front digit
      exact ⟨_, ⟨sign, _, listed, digits, rfl⟩, by rw [behind, last]; simp⟩
    · cases h

theorem covers_skipExponent? : Covers skipExponent? Exponent := by
  intro cursor stop h
  unfold skipExponent? at h
  split at h
  · rename_i marked
    obtain ⟨_, ⟨sign, digits, listed, all, rfl⟩, behind⟩ := covers_skipExponent h
    cases front : cursor.rest with
    | nil => simp [front] at marked
    | cons mark rest =>
      simp only [front, List.head?_cons, Option.any_some, Bool.or_eq_true, beq_iff_eq] at marked
      rw [Cursor.rest_skip_one front] at behind
      exact ⟨_, .inr ⟨mark, sign, digits, by simpa using marked, listed, all, rfl⟩,
        by rw [behind]; simp⟩
  · cases h
    exact ⟨[], .inl rfl, rfl⟩

/-- What may follow the digits before the point. -/
def Scale (text : Bytes) : Prop :=
  ∃ fraction exponent, Fraction fraction ∧ Exponent exponent ∧ text = fraction ++ exponent

theorem covers_skipScale : Covers skipScale Scale := by
  intro cursor stop h
  unfold skipScale skipFraction at h
  split at h
  · rename_i point
    dsimp only at h
    obtain ⟨digits, all, behind, count⟩ := (cursor.skip 1).exists_skipDigits
    split at h
    · cases h
    · rename_i some
      obtain ⟨exponent, form, last⟩ := covers_skipExponent? h
      have nonempty : digits ≠ [] := by
        rintro rfl
        exact some (by simpa using count)
      cases front : cursor.rest with
      | nil => simp [front] at point
      | cons byte rest =>
        obtain rfl : byte = 0x2E := by simpa [front] using point
        rw [Cursor.rest_skip_one front] at behind
        exact ⟨_, ⟨0x2E :: digits, exponent, .inr ⟨digits, ⟨nonempty, all⟩, rfl⟩, form, rfl⟩,
          by rw [behind, last]; simp⟩
  · obtain ⟨exponent, form, behind⟩ := covers_skipExponent? h
    exact ⟨exponent, ⟨[], exponent, .inl rfl, form, rfl⟩, behind⟩

theorem covers_skipUnsigned : Covers skipUnsigned Unsigned := by
  have joined {whole scale : Bytes} (digits : Whole whole) (form : Scale scale) :
      Unsigned (whole ++ scale) := by
    obtain ⟨fraction, exponent, first, second, rfl⟩ := form
    exact ⟨whole, fraction, exponent, digits, first, second, rfl⟩
  intro cursor stop h
  unfold skipUnsigned at h
  split at h
  · cases h
  · rename_i byte rest front
    dsimp only at h
    split at h
    · rename_i zero
      split at h
      · cases h
      · obtain ⟨scale, form, behind⟩ := covers_skipScale h
        rw [Cursor.rest_skip_one front] at behind
        exact ⟨_, joined (.inl rfl) form, by rw [front, zero, behind]; simp⟩
    · rename_i other
      split at h
      · rename_i digit
        obtain ⟨more, digits, last⟩ := exists_digits front digit
        obtain ⟨scale, form, behind⟩ := covers_skipScale h
        exact ⟨_, joined (.inr ⟨digits, by simpa using other⟩) form, by rw [last, behind]; simp⟩
      · cases h

/-! ## Every number is skipped -/

/-- Neither a digit nor a point comes next where an exponent may stand. -/
theorem next_exponent {exponent rest : Bytes} (form : Exponent exponent)
    (delimited : Delimited rest) :
    ∀ byte ∈ (exponent ++ rest).head?, Cursor.isDigit byte = false ∧ byte ≠ 0x2E := by
  intro byte next
  rcases form with rfl | ⟨mark, sign, digits, listed, -, -, rfl⟩
  · obtain ⟨noDigit, other⟩ := delimited byte next
    exact ⟨noDigit, fun point => other (by simp [point])⟩
  · cases next
    simp only [List.mem_cons, List.not_mem_nil, or_false] at listed
    rcases listed with rfl | rfl <;> decide

theorem noDigit_scale {scale rest : Bytes} (form : Scale scale) (delimited : Delimited rest) :
    NoDigit (scale ++ rest) := by
  obtain ⟨fraction, exponent, first, second, rfl⟩ := form
  rcases first with rfl | ⟨digits, -, rfl⟩
  · exact fun byte next => (next_exponent second delimited byte next).1
  · intro byte next
    cases next
    rfl

theorem passes_skipExponent {sign digits rest : Bytes}
    (listed : sign ∈ ([[], [0x2B], [0x2D]] : List Bytes)) (all : Digits digits)
    (ends : NoDigit rest) : Passes skipExponent (sign ++ (digits ++ rest)) rest := by
  intro cursor front
  obtain ⟨first, more, rfl⟩ := List.exists_cons_of_ne_nil all.1
  have digit := (digits_cons_iff.mp all).1
  obtain ⟨start, same, behind⟩ : ∃ start : Cursor,
      (if cursor.rest.head?.any (fun byte => byte == 0x2B || byte == 0x2D)
        then cursor.skip 1 else cursor) = start ∧ start.rest = first :: (more ++ rest) := by
    simp only [List.mem_cons, List.not_mem_nil, or_false] at listed
    rcases listed with rfl | rfl | rfl
    · have plus : first ≠ 0x2B := by
        rintro rfl
        cases digit
      have minus : first ≠ 0x2D := by
        rintro rfl
        cases digit
      exact ⟨cursor, by simp [front, plus, minus], by simpa using front⟩
    · exact ⟨cursor.skip 1, by simp [front], by simp [front]⟩
    · exact ⟨cursor.skip 1, by simp [front], by simp [front]⟩
  refine ⟨(start.skip 1).skipDigits, ?_, rest_skipDigits_of_digits behind all ends⟩
  simp only [skipExponent, same]
  simp [behind, digit]

theorem passes_skipExponent? {exponent rest : Bytes} (form : Exponent exponent)
    (delimited : Delimited rest) : Passes skipExponent? (exponent ++ rest) rest := by
  intro cursor front
  rcases form with rfl | ⟨mark, sign, digits, listed, signed, all, rfl⟩
  · refine ⟨cursor, ?_, front⟩
    cases rest with
    | nil => simp [skipExponent?, front]
    | cons byte rest =>
      have other := (delimited byte rfl).2
      simp only [List.mem_cons, List.not_mem_nil, or_false, not_or] at other
      simp [skipExponent?, front, other]
  · obtain ⟨stop, success, left⟩ :=
      passes_skipExponent signed all delimited.noDigit (cursor.skip 1) (by simp [front])
    refine ⟨stop, ?_, left⟩
    simp only [List.mem_cons, List.not_mem_nil, or_false] at listed
    simp [skipExponent?, front, listed, success]

theorem passes_skipScale {scale rest : Bytes} (form : Scale scale) (delimited : Delimited rest) :
    Passes skipScale (scale ++ rest) rest := by
  intro cursor front
  obtain ⟨fraction, exponent, first, second, rfl⟩ := form
  rcases first with rfl | ⟨digits, all, rfl⟩
  · obtain ⟨stop, success, left⟩ := passes_skipExponent? second delimited cursor front
    have noPoint : cursor.rest.head? ≠ some 0x2E := by
      intro point
      rw [front] at point
      exact (next_exponent second delimited 0x2E point).2 rfl
    exact ⟨stop, by simp [skipScale, noPoint, success], left⟩
  · have behind : (cursor.skip 1).rest = digits ++ (exponent ++ rest) := by simp [front]
    have ends : NoDigit (exponent ++ rest) :=
      fun byte next => (next_exponent second delimited byte next).1
    have after : (cursor.skip 1).skipDigits.rest = exponent ++ rest :=
      Cursor.rest_skipDigits behind all.2 ends
    obtain ⟨stop, success, left⟩ := passes_skipExponent? second delimited _ after
    have moved : (cursor.skip 1).skipDigits.consumed ≠ (cursor.skip 1).consumed := by
      obtain ⟨found, -, split, count⟩ := (cursor.skip 1).exists_skipDigits
      rw [behind, after, List.append_cancel_right_eq] at split
      rw [count, ← split]
      have some := List.length_pos_iff.mpr all.1
      omega
    exact ⟨stop, by simp [skipScale, skipFraction, front, moved, success], left⟩

theorem passes_skipUnsigned {text rest : Bytes} (number : Unsigned text)
    (delimited : Delimited rest) : Passes skipUnsigned (text ++ rest) rest := by
  intro cursor front
  obtain ⟨whole, fraction, exponent, digits, first, second, rfl⟩ := number
  have scale : Scale (fraction ++ exponent) := ⟨fraction, exponent, first, second, rfl⟩
  have ends := noDigit_scale scale delimited
  rw [List.append_assoc] at front
  rcases digits with rfl | ⟨digits, noZero⟩
  · obtain ⟨stop, success, left⟩ :=
      passes_skipScale scale delimited (cursor.skip 1) (by simp [front])
    refine ⟨stop, ?_, left⟩
    generalize fraction ++ exponent ++ rest = behind at front ends
    have noDigit : behind.head?.any Cursor.isDigit = false := by
      cases behind with
      | nil => rfl
      | cons byte behind => exact ends byte rfl
    simp [skipUnsigned, front, noDigit, success]
  · obtain ⟨byte, more, rfl⟩ := List.exists_cons_of_ne_nil digits.1
    have digit := (digits_cons_iff.mp digits).1
    have after := rest_skipDigits_of_digits front digits ends
    obtain ⟨stop, success, left⟩ := passes_skipScale scale delimited _ after
    refine ⟨stop, ?_, left⟩
    have other : byte ≠ 0x30 := by simpa using noZero
    simp [skipUnsigned, front, other, digit, success]

end UnityBuild.Json
