import UnityBuild.Json.Fault

/-!
# Words and texts

Words are `null`, `true` and `false`. Texts stand between quotes; a backslash introduces an escape.
A character above the first plane is escaped by two numbers, of which the first is a leading and the
second a trailing surrogate; neither stands alone.

`readText` gives the characters of a text. Its bytes are put together first and decoded when the
closing quote was read. `skipText` only finds the closing quote.
-/

namespace UnityBuild.Json

def readWord (cursor : Cursor) : Bytes → Except Refusal Cursor
  | [] => .ok cursor
  | wanted :: more =>
    match cursor.rest with
    | [] => .error (cursor.here .endInValue)
    | byte :: _ =>
      if byte = wanted then readWord (cursor.skip 1) more
      else .error ((cursor.skip 1).here .expectedWord)

def hexDigit? (byte : UInt8) : Option Nat :=
  if 0x30 ≤ byte && byte ≤ 0x39 then some (byte.toNat - 0x30)
  else if 0x41 ≤ byte && byte ≤ 0x46 then some (byte.toNat - 0x37)
  else if 0x61 ≤ byte && byte ≤ 0x66 then some (byte.toNat - 0x57)
  else none

def hexNumber? (digits : Bytes) : Option Nat :=
  digits.foldlM (fun value byte => (hexDigit? byte).map (value * 16 + ·)) 0

def readHex (cursor : Cursor) : Except Refusal (Nat × Cursor) :=
  let after := cursor.skip 4
  match cursor.rest with
  | first :: second :: third :: fourth :: _ =>
    match hexNumber? [first, second, third, fourth] with
    | some value => .ok (value, after)
    | none => .error (after.here .invalidEscape)
  | _ => .error (after.here .endInText)

def isLeading (unit : Nat) : Bool := 0xD800 ≤ unit && unit ≤ 0xDBFF

def isTrailing (unit : Nat) : Bool := 0xDC00 ≤ unit && unit ≤ 0xDFFF

/-- The character that a pair of surrogates stands for. -/
def pairNumber (leading trailing : Nat) : Nat :=
  (leading - 0xD800) * 0x400 + (trailing - 0xDC00) + 0x10000

/-- Reads one byte that an escape of a pair needs. -/
def readPairMark (cursor : Cursor) (wanted : UInt8) : Except Refusal Cursor :=
  match cursor.rest with
  | [] => .error (cursor.here .endInText)
  | byte :: _ =>
    if byte = wanted then .ok (cursor.skip 1) else .error ((cursor.skip 1).here .endOfEscapePair)

/-- Reads the second number of a pair whose first number is given. -/
def readTrailing (leading : Nat) (cursor : Cursor) : Except Refusal (Bytes × Cursor) := do
  let slash ← readPairMark cursor 0x5C
  let mark ← readPairMark slash 0x75
  let (unit, after) ← readHex mark
  if isTrailing unit then .ok (String.utf8EncodeChar (Char.ofNat (pairNumber leading unit)), after)
  else .error (after.here .loneSurrogate)

/-- Reads the digits of an escape by number, and the second number of a pair. -/
def readNumbered (cursor : Cursor) : Except Refusal (Bytes × Cursor) := do
  let (unit, after) ← readHex cursor
  if isTrailing unit then .error (after.here .loneSurrogate)
  else if isLeading unit then readTrailing unit after
  else .ok (String.utf8EncodeChar (Char.ofNat unit), after)

/-- The byte that a short escape stands for. -/
def shortEscape? (byte : UInt8) : Option UInt8 :=
  if byte = 0x22 || byte = 0x5C || byte = 0x2F then some byte
  else if byte = 0x62 then some 0x08
  else if byte = 0x66 then some 0x0C
  else if byte = 0x6E then some 0x0A
  else if byte = 0x72 then some 0x0D
  else if byte = 0x74 then some 0x09
  else none

/-- Reads what follows a backslash, with a reader for the numbers. -/
def readEscape {α : Type} (short : UInt8 → α)
    (numbered : Cursor → Except Refusal (α × Cursor))
    (cursor : Cursor) : Except Refusal (α × Cursor) :=
  match cursor.rest with
  | [] => .error (cursor.here .endInText)
  | byte :: _ =>
    if byte = 0x75 then numbered (cursor.skip 1)
    else
      match shortEscape? byte with
      | some meant => .ok (short meant, cursor.skip 1)
      | none => .error ((cursor.skip 1).here .invalidEscape)

/-- Reads an escape into the bytes it stands for. -/
def readEscaped (cursor : Cursor) : Except Refusal (Bytes × Cursor) :=
  readEscape ([·]) readNumbered cursor

/-- Reads an escape without telling what it stands for. Surrogates may stand alone. -/
def skipEscaped (cursor : Cursor) : Except Refusal (Unit × Cursor) :=
  readEscape (fun _ => ()) (fun cursor => (readHex cursor).map fun read => ((), read.2)) cursor

theorem length_readHex {cursor after : Cursor} {value : Nat}
    (h : readHex cursor = .ok (value, after)) : after.rest.length ≤ cursor.rest.length := by
  unfold readHex at h
  split at h
  · split at h
    · cases h; simp
    · cases h
  · cases h

theorem length_readPairMark {cursor after : Cursor} {wanted : UInt8}
    (h : readPairMark cursor wanted = .ok after) : after.rest.length ≤ cursor.rest.length := by
  unfold readPairMark at h
  split at h
  · cases h
  · split at h
    · cases h; simp
    · cases h

theorem length_readTrailing {leading : Nat} {cursor after : Cursor} {bytes : Bytes}
    (h : readTrailing leading cursor = .ok (bytes, after)) :
    after.rest.length ≤ cursor.rest.length := by
  rw [readTrailing] at h
  obtain ⟨slash, hslash, h⟩ := exists_of_bind_eq_ok h
  obtain ⟨mark, hmark, h⟩ := exists_of_bind_eq_ok h
  obtain ⟨⟨unit, last⟩, hhex, h⟩ := exists_of_bind_eq_ok h
  have := length_readPairMark hslash
  have := length_readPairMark hmark
  have := length_readHex hhex
  dsimp only at h
  split at h
  · simp only [Except.ok.injEq, Prod.mk.injEq] at h
    obtain ⟨_, rfl⟩ := h
    omega
  · cases h

theorem length_readNumbered {cursor after : Cursor} {bytes : Bytes}
    (h : readNumbered cursor = .ok (bytes, after)) : after.rest.length ≤ cursor.rest.length := by
  rw [readNumbered] at h
  obtain ⟨⟨unit, first⟩, hhex, h⟩ := exists_of_bind_eq_ok h
  have hfirst := length_readHex hhex
  dsimp only at h
  split at h
  · cases h
  · split at h
    · have := length_readTrailing h; omega
    · simp only [Except.ok.injEq, Prod.mk.injEq] at h
      exact h.2 ▸ hfirst

theorem length_readEscape {α : Type} {short : UInt8 → α}
    {numbered : Cursor → Except Refusal (α × Cursor)}
    (hn : ∀ {cursor after : Cursor} {value : α}, numbered cursor = .ok (value, after) →
      after.rest.length ≤ cursor.rest.length)
    {cursor after : Cursor} {value : α}
    (h : readEscape short numbered cursor = .ok (value, after)) : after.Ahead cursor := by
  unfold readEscape at h
  unfold Cursor.Ahead
  split at h
  · cases h
  · rename_i byte rest hrest
    split at h
    · have := hn h
      simp [hrest] at this ⊢
      omega
    · split at h
      · cases h; simp [hrest]
      · cases h

theorem ahead_readEscaped {cursor after : Cursor} {bytes : Bytes}
    (h : readEscaped cursor = .ok (bytes, after)) : after.Ahead cursor :=
  length_readEscape length_readNumbered h

theorem ahead_skipEscaped {cursor after : Cursor} {value : Unit}
    (h : skipEscaped cursor = .ok (value, after)) : after.Ahead cursor := by
  refine length_readEscape (fun {cursor after value} h => ?_) h
  cases hex : readHex cursor with
  | error => simp [hex, Except.map] at h
  | ok read =>
    simp only [hex, Except.map, Except.ok.injEq, Prod.mk.injEq] at h
    exact h.2 ▸ @length_readHex _ read.2 read.1 hex

/-- The least byte that stands for itself in a text. -/
def leastPlain : UInt8 := 0x20

/-- Reads the bytes of a text up to its closing quote. -/
def readBytes (done : Array UInt8) (cursor : Cursor) : Except Refusal (Bytes × Cursor) :=
  match hrest : cursor.rest with
  | [] => .error (cursor.here .endInText)
  | byte :: rest =>
    if byte = 0x22 then .ok (done.toList, cursor.skip 1)
    else if byte = 0x5C then
      match _h : readEscaped ⟨cursor.consumed + 1, rest⟩ with
      | .error refusal => .error refusal
      | .ok (bytes, after) => readBytes (done ++ bytes) after
    else if byte < leastPlain then .error ((cursor.skip 1).here .controlCharacter)
    else readBytes (done.push byte) ⟨cursor.consumed + 1, rest⟩
termination_by cursor.rest.length
decreasing_by
  · have := ahead_readEscaped _h
    simp only [Cursor.Ahead] at this
    simp only [hrest, List.length_cons]
    omega
  · simp [hrest]

def readText (cursor : Cursor) : Except Refusal (String × Cursor) := do
  let (bytes, after) ← readBytes #[] cursor
  match Utf8.decode bytes with
  | .ok letters => .ok (String.ofList letters, after)
  | .error back => .error ⟨.invalidCodePoint, after.consumed, back⟩

/-- Reads over a text whose opening quote was read. A control byte is not read. -/
def skipText (cursor : Cursor) : Except Refusal Cursor :=
  match hrest : cursor.rest with
  | [] => .error (cursor.here .endInText)
  | byte :: rest =>
    if byte = 0x22 then .ok (cursor.skip 1)
    else if byte = 0x5C then
      match _h : skipEscaped ⟨cursor.consumed + 1, rest⟩ with
      | .error refusal => .error refusal
      | .ok (_, after) => skipText after
    else if byte < leastPlain then .error (cursor.here .controlCharacter)
    else skipText ⟨cursor.consumed + 1, rest⟩
termination_by cursor.rest.length
decreasing_by
  · have := ahead_skipEscaped _h
    simp only [Cursor.Ahead] at this
    simp only [hrest, List.length_cons]
    omega
  · simp [hrest]

theorem ahead_readBytes {done : Array UInt8} {cursor after : Cursor} {bytes : Bytes}
    (h : readBytes done cursor = .ok (bytes, after)) : after.Ahead cursor := by
  simp only [Cursor.Ahead]
  fun_induction readBytes done cursor with
  | case1 => cases h
  | case2 _ cursor rest hrest => cases h; simp [hrest]
  | case3 => cases h
  | case4 _ cursor rest bytes next hescape hrest _ ih =>
    have hnext := ahead_readEscaped hescape
    have hlast := ih h
    simp only [Cursor.Ahead, hrest, List.length_cons] at hnext ⊢
    omega
  | case5 => cases h
  | case6 _ cursor byte rest hrest _ _ _ ih =>
    have hlast := ih h
    simp only [hrest, List.length_cons] at hlast ⊢
    omega

theorem ahead_readText {cursor after : Cursor} {text : String}
    (h : readText cursor = .ok (text, after)) : after.Ahead cursor := by
  obtain ⟨⟨bytes, last⟩, hbytes, h⟩ := exists_of_bind_eq_ok h
  dsimp only at h
  split at h
  · cases h; exact ahead_readBytes hbytes
  · cases h

theorem ahead_skipText {cursor after : Cursor} (h : skipText cursor = .ok after) :
    after.Ahead cursor := by
  simp only [Cursor.Ahead]
  fun_induction skipText cursor with
  | case1 => cases h
  | case2 cursor rest hrest => cases h; simp [hrest]
  | case3 => cases h
  | case4 cursor rest _ next hescape hrest _ ih =>
    have hnext := ahead_skipEscaped hescape
    have hlast := ih h
    simp only [Cursor.Ahead, hrest, List.length_cons] at hnext ⊢
    omega
  | case5 => cases h
  | case6 cursor byte rest hrest _ _ _ ih =>
    have hlast := ih h
    simp only [hrest, List.length_cons] at hlast ⊢
    omega

end UnityBuild.Json
