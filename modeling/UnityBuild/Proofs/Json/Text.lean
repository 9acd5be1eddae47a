import UnityBuild.Proofs.Json.Grammar
import UnityBuild.Proofs.Json.Literal
import UnityBuild.Proofs.Text.Decoding

/-!
# Reading texts

Between quotes a reader takes plain bytes as they are and puts the bytes of a character in the place
of an escape. It decodes all of them together at the end. That is no more than the grammar allows:
an escape never completes a sequence that plain bytes began, because the bytes of a character do not
begin with one that continues a sequence. So the plain bytes of every character stand together.
-/

namespace UnityBuild.Json

/-! ## Numbered escapes -/

theorem toNat_digitChar : ∀ value < 16,
    (Nat.digitChar value).toNat = (if value < 10 then value + 0x30 else value + 0x57) ∧
      (Nat.digitChar value).toUpper.toNat =
        (if value < 10 then value + 0x30 else value + 0x37) := by
  decide

theorem hexDigit_iff_ranges {byte : UInt8} {value : Nat} :
    HexDigit byte value ↔
      (value < 10 ∧ byte.toNat = value + 0x30) ∨
        (10 ≤ value ∧ value < 16 ∧ (byte.toNat = value + 0x57 ∨ byte.toNat = value + 0x37)) := by
  constructor
  · rintro ⟨small, same⟩
    obtain ⟨lower, upper⟩ := toNat_digitChar value small
    rw [lower, upper] at same
    split at same <;> omega
  · intro ranges
    have small : value < 16 := by omega
    obtain ⟨lower, upper⟩ := toNat_digitChar value small
    refine ⟨small, ?_⟩
    rw [lower, upper]
    split <;> omega

theorem hexDigit?_eq_some_iff {byte : UInt8} {value : Nat} :
    hexDigit? byte = some value ↔ HexDigit byte value := by
  rw [hexDigit_iff_ranges, hexDigit?]
  simp only [Bool.and_eq_true, decide_eq_true_eq, UInt8.le_iff_toNat_le, UInt8.reduceToNat]
  repeat' split
  all_goals
    simp only [Option.some.injEq, reduceCtorEq, false_iff]
    omega

theorem hexNumber?_eq_some_iff {first second third fourth : UInt8} {number : Nat} :
    hexNumber? [first, second, third, fourth] = some number ↔
      HexNumber [first, second, third, fourth] number := by
  simp only [hexNumber?, List.foldlM_cons, List.foldlM_nil, Option.bind_eq_bind,
    Option.bind_eq_some_iff, Option.map_eq_some_iff, Option.pure_def, Option.some.injEq,
    hexDigit?_eq_some_iff]
  constructor
  · rintro ⟨_, ⟨a, one, rfl⟩, _, ⟨b, two, rfl⟩, _, ⟨c, three, rfl⟩, _, ⟨d, four, rfl⟩, rfl⟩
    simpa using HexNumber.digits one two three four
  · rintro ⟨one, two, three, four⟩
    exact ⟨_, ⟨_, one, rfl⟩, _, ⟨_, two, rfl⟩, _, ⟨_, three, rfl⟩, _, ⟨_, four, rfl⟩, by simp⟩

theorem takes_readHex : Takes readHex HexNumber := by
  intro cursor stop number h
  unfold readHex at h
  split at h
  · rename_i first second third fourth rest front
    split at h
    · rename_i value spelled
      cases h
      exact ⟨_, hexNumber?_eq_some_iff.mp spelled, by simp [front]⟩
    · cases h
  · cases h

theorem reads_readHex {digits : Bytes} {number : Nat} (hex : HexNumber digits number)
    (rest : Bytes) : Reads readHex (digits ++ rest) number rest := by
  intro cursor front
  cases hex with
  | digits one two three four =>
    have number := hexNumber?_eq_some_iff.mpr (.digits one two three four)
    exact ⟨cursor.skip 4, by simp [readHex, front, number], by simp [front]⟩

/-! ## Escapes -/

theorem shortEscape?_eq_some_iff {byte meant : UInt8} :
    shortEscape? byte = some meant ↔
      ∃ letter, (byte, letter) ∈ shortEscapes ∧ String.utf8EncodeChar letter = [meant] := by
  constructor
  · intro h
    unfold shortEscape? at h
    repeat' split at h
    · rename_i same
      cases h
      simp only [Bool.or_eq_true, decide_eq_true_eq] at same
      rcases same with (rfl | rfl) | rfl
      · exact ⟨'"', by decide, by decide⟩
      · exact ⟨'\\', by decide, by decide⟩
      · exact ⟨'/', by decide, by decide⟩
    · subst_vars
      cases h
      exact ⟨'\x08', by decide, by decide⟩
    · subst_vars
      cases h
      exact ⟨'\x0C', by decide, by decide⟩
    · subst_vars
      cases h
      exact ⟨'\n', by decide, by decide⟩
    · subst_vars
      cases h
      exact ⟨'\r', by decide, by decide⟩
    · subst_vars
      cases h
      exact ⟨'\t', by decide, by decide⟩
    · cases h
  · rintro ⟨letter, listed, meaning⟩
    have all : ∀ pair ∈ shortEscapes,
        some (String.utf8EncodeChar pair.2) = (shortEscape? pair.1).map ([·]) := by
      decide
    have own := all _ listed
    rw [meaning] at own
    obtain ⟨other, short, same⟩ := Option.map_eq_some_iff.mp own.symm
    rw [short, List.singleton_inj.mp same]

section ReadEscape

variable {α : Type} {short : UInt8 → α} {numbered : Cursor → Except Refusal (α × Cursor)}

theorem takes_readEscape {form : Bytes → α → Prop} (digits : Takes numbered form) :
    Takes (readEscape short numbered) fun text value =>
      (∃ byte meant, shortEscape? byte = some meant ∧ text = [byte] ∧ value = short meant) ∨
        ∃ rest, form rest value ∧ text = 0x75 :: rest := by
  intro cursor stop value h
  unfold readEscape at h
  split at h
  · cases h
  · rename_i byte rest front
    split at h
    · rename_i mark
      obtain ⟨text, fits, all⟩ := digits h
      refine ⟨0x75 :: text, .inr ⟨text, fits, rfl⟩, ?_⟩
      rw [Cursor.rest_skip_one front] at all
      rw [front, mark, all, List.cons_append]
    · split at h
      · rename_i meant listed
        cases h
        exact ⟨[byte], .inl ⟨byte, meant, listed, rfl, rfl⟩, by simp [front]⟩
      · cases h

theorem reads_readEscape_short {byte meant : UInt8} (listed : shortEscape? byte = some meant)
    (rest : Bytes) : Reads (readEscape short numbered) (byte :: rest) (short meant) rest := by
  intro cursor front
  have other : byte ≠ 0x75 := by
    rintro rfl
    cases listed
  exact ⟨cursor.skip 1, by simp [readEscape, front, other, listed], by simp [front]⟩

theorem reads_readEscape_numbered {text rest : Bytes} {value : α}
    (read : Reads numbered text value rest) :
    Reads (readEscape short numbered) (0x75 :: text) value rest := by
  intro cursor front
  obtain ⟨stop, success, left⟩ := read (cursor.skip 1) (by simp [front])
  exact ⟨stop, by simp [readEscape, front, success], left⟩

end ReadEscape

theorem covers_readPairMark (wanted : UInt8) :
    Covers (readPairMark · wanted) (· = [wanted]) := by
  intro cursor stop h
  dsimp only [readPairMark] at h
  split at h
  · cases h
  · rename_i byte rest front
    split at h
    · rename_i same
      cases h
      exact ⟨[wanted], rfl, by simp [front, same]⟩
    · cases h

theorem passes_readPairMark (wanted : UInt8) (rest : Bytes) :
    Passes (readPairMark · wanted) (wanted :: rest) rest := by
  intro cursor front
  exact ⟨cursor.skip 1, by simp [readPairMark, front], by simp [front]⟩

/-- Half of a pair that was read needs the other half. -/
theorem takes_readTrailing {leading : Nat} (upper : 0xD800 ≤ leading ∧ leading ≤ 0xDBFF) :
    Takes (readTrailing leading) fun text bytes =>
      ∀ digits, HexNumber digits leading →
        ∃ letter, Escape (0x75 :: (digits ++ text)) letter ∧
          bytes = String.utf8EncodeChar letter := by
  intro cursor stop bytes h
  rw [readTrailing] at h
  obtain ⟨slash, hslash, h⟩ := exists_of_bind_eq_ok h
  obtain ⟨mark, hmark, h⟩ := exists_of_bind_eq_ok h
  obtain ⟨⟨trailing, last⟩, hhex, h⟩ := exists_of_bind_eq_ok h
  obtain ⟨_, rfl, first⟩ := covers_readPairMark 0x5C hslash
  obtain ⟨_, rfl, second⟩ := covers_readPairMark 0x75 hmark
  obtain ⟨digits', hex', third⟩ := takes_readHex hhex
  dsimp only at h
  split at h
  · rename_i lower
    simp only [Except.ok.injEq, Prod.mk.injEq] at h
    obtain ⟨rfl, rfl⟩ := h
    simp only [isTrailing, Bool.and_eq_true, decide_eq_true_eq] at lower
    refine ⟨0x5C :: 0x75 :: digits', fun digits hex => ?_, ?_⟩
    · exact ⟨_, .pair hex upper hex' lower, rfl⟩
    · rw [first, second, third]
      rfl
  · cases h

theorem takes_readNumbered :
    Takes readNumbered fun text bytes =>
      ∃ letter, Escape (0x75 :: text) letter ∧ bytes = String.utf8EncodeChar letter := by
  intro cursor stop bytes h
  rw [readNumbered] at h
  obtain ⟨⟨number, after⟩, hhex, h⟩ := exists_of_bind_eq_ok h
  obtain ⟨digits, hex, front⟩ := takes_readHex hhex
  dsimp only at h
  split at h
  · cases h
  · rename_i noTrailing
    simp only [isTrailing, Bool.and_eq_true, decide_eq_true_eq] at noTrailing
    split at h
    · rename_i leading
      simp only [isLeading, Bool.and_eq_true, decide_eq_true_eq] at leading
      obtain ⟨text, pair, behind⟩ := takes_readTrailing leading h
      exact ⟨digits ++ text, pair digits hex, by rw [front, behind, List.append_assoc]⟩
    · rename_i noLeading
      simp only [isLeading, Bool.and_eq_true, decide_eq_true_eq] at noLeading
      cases h
      exact ⟨digits, ⟨_, .number hex (by omega), rfl⟩, front⟩

theorem takes_readEscaped :
    Takes readEscaped fun text bytes =>
      ∃ letter, Escape text letter ∧ bytes = String.utf8EncodeChar letter := by
  intro cursor stop bytes h
  obtain ⟨text, form, front⟩ := takes_readEscape takes_readNumbered h
  refine ⟨text, ?_, front⟩
  rcases form with ⟨byte, meant, short, rfl, rfl⟩ | ⟨rest, escape, rfl⟩
  · obtain ⟨letter, listed, meaning⟩ := shortEscape?_eq_some_iff.mp short
    exact ⟨letter, .short listed, meaning.symm⟩
  · exact escape

/-- Short escapes are all read, whatever is done with what they mean. -/
theorem exists_shortEscape? : ∀ pair ∈ shortEscapes,
    ∃ meant, shortEscape? pair.1 = some meant ∧ String.utf8EncodeChar pair.2 = [meant] := by
  intro pair listed
  obtain ⟨meant, single⟩ : ∃ meant, String.utf8EncodeChar pair.2 = [meant] := by
    have all : ∀ pair ∈ shortEscapes, (String.utf8EncodeChar pair.2).length = 1 := by decide
    exact List.length_eq_one_iff.mp (all pair listed)
  exact ⟨meant, shortEscape?_eq_some_iff.mpr ⟨pair.2, listed, single⟩, single⟩

theorem reads_readNumbered_pair {digits digits' : Bytes} {leading trailing : Nat}
    (hex : HexNumber digits leading) (upper : 0xD800 ≤ leading ∧ leading ≤ 0xDBFF)
    (hex' : HexNumber digits' trailing) (lower : 0xDC00 ≤ trailing ∧ trailing ≤ 0xDFFF)
    (rest : Bytes) :
    Reads readNumbered (digits ++ 0x5C :: 0x75 :: (digits' ++ rest))
      (String.utf8EncodeChar (Char.ofNat (pairNumber leading trailing))) rest := by
  intro cursor front
  obtain ⟨first, success, behind⟩ := reads_readHex hex _ cursor front
  obtain ⟨slash, success', behind'⟩ := passes_readPairMark 0x5C _ first behind
  obtain ⟨mark, success'', behind''⟩ := passes_readPairMark 0x75 _ slash behind'
  obtain ⟨stop, last, left⟩ := reads_readHex hex' rest mark behind''
  have noTrailing : isTrailing leading = false := by
    simp [isTrailing]
    omega
  have isLeading : isLeading leading = true := by simp [isLeading, upper]
  have isTrailing : isTrailing trailing = true := by simp [isTrailing, lower]
  refine ⟨stop, ?_, left⟩
  simp [readNumbered, success, noTrailing, isLeading, readTrailing, success', success'', last,
    isTrailing, bind, Except.bind]

theorem reads_readNumbered_number {digits : Bytes} {number : Nat} (hex : HexNumber digits number)
    (whole : number < 0xD800 ∨ 0xDFFF < number) (rest : Bytes) :
    Reads readNumbered (digits ++ rest) (String.utf8EncodeChar (Char.ofNat number)) rest := by
  intro cursor front
  obtain ⟨stop, success, left⟩ := reads_readHex hex rest cursor front
  have noTrailing : isTrailing number = false := by
    simp [isTrailing]
    omega
  have noLeading : isLeading number = false := by
    simp [isLeading]
    omega
  exact ⟨stop, by simp [readNumbered, success, noTrailing, noLeading, bind, Except.bind], left⟩

theorem reads_readEscaped {text : Bytes} {letter : Char} (escape : Escape text letter)
    (rest : Bytes) :
    Reads readEscaped (text ++ rest) (String.utf8EncodeChar letter) rest := by
  cases escape with
  | short listed =>
    obtain ⟨meant, short, single⟩ := exists_shortEscape? _ listed
    rw [single]
    exact reads_readEscape_short short rest
  | number hex whole =>
    exact reads_readEscape_numbered (reads_readNumbered_number hex whole rest)
  | pair hex upper hex' lower =>
    simp only [List.cons_append, List.append_assoc]
    exact reads_readEscape_numbered (reads_readNumbered_pair hex upper hex' lower rest)

/-- Whoever skips a text takes a number as an escape, be it half of a pair. -/
def Skippable (text : Bytes) : Prop :=
  (∃ byte letter, (byte, letter) ∈ shortEscapes ∧ text = [byte]) ∨
    ∃ digits number, HexNumber digits number ∧ text = 0x75 :: digits

theorem takes_skipEscaped : Takes skipEscaped fun text _ => Skippable text := by
  have digits : Takes (fun cursor => (readHex cursor).map fun read => ((), read.2))
      fun text _ => ∃ number, HexNumber text number := by
    intro cursor stop value h
    cases hex : readHex cursor with
    | error refusal => simp [hex, Except.map] at h
    | ok read =>
      simp only [hex, Except.map, Except.ok.injEq, Prod.mk.injEq, true_and] at h
      subst h
      obtain ⟨text, number, front⟩ := takes_readHex hex
      exact ⟨text, ⟨_, number⟩, front⟩
  intro cursor stop value h
  obtain ⟨text, form, front⟩ := takes_readEscape digits h
  refine ⟨text, ?_, front⟩
  rcases form with ⟨byte, meant, short, rfl, -⟩ | ⟨digits, ⟨number, hex⟩, rfl⟩
  · obtain ⟨letter, listed, -⟩ := shortEscape?_eq_some_iff.mp short
    exact .inl ⟨byte, letter, listed, rfl⟩
  · exact .inr ⟨digits, number, hex, rfl⟩

theorem reads_skipEscaped {text : Bytes} (escape : Skippable text) (rest : Bytes) :
    Reads skipEscaped (text ++ rest) () rest := by
  rcases escape with ⟨byte, letter, listed, rfl⟩ | ⟨digits, number, hex, rfl⟩
  · obtain ⟨meant, short, -⟩ := exists_shortEscape? _ listed
    exact reads_readEscape_short short rest
  · refine reads_readEscape_numbered fun cursor front => ?_
    obtain ⟨stop, success, left⟩ := reads_readHex hex rest cursor front
    exact ⟨stop, by rw [success]; rfl, left⟩

/-! ## Between the quotes -/

/-- What a reader takes between quotes, and the bytes that it puts together. -/
inductive Pieces : Bytes → Bytes → Prop
  | nil : Pieces [] []
  | byte {byte : UInt8} {body meant : Bytes} (plain : Plain byte) (onward : Pieces body meant) :
      Pieces (byte :: body) (byte :: meant)
  | escape {escaped body meant : Bytes} {letter : Char} (escape : Escape escaped letter)
      (onward : Pieces body meant) :
      Pieces (0x5C :: (escaped ++ body)) (String.utf8EncodeChar letter ++ meant)

theorem pieces_of_readBytes {done : Array UInt8} {cursor stop : Cursor} {bytes : Bytes}
    (h : readBytes done cursor = .ok (bytes, stop)) :
    ∃ body meant, Pieces body meant ∧ bytes = done.toList ++ meant ∧
      cursor.rest = body ++ 0x22 :: stop.rest := by
  fun_induction readBytes done cursor with
  | case1 => cases h
  | case2 done cursor rest front =>
    cases h
    exact ⟨[], [], .nil, by simp, by simp [front]⟩
  | case3 => cases h
  | case4 done cursor rest more after escaped front _ ih =>
    obtain ⟨text, ⟨letter, escape, rfl⟩, behind⟩ := takes_readEscaped escaped
    obtain ⟨body, meant, pieces, rfl, last⟩ := ih h
    refine ⟨_, _, .escape escape pieces, by simp, ?_⟩
    dsimp only at behind
    rw [front, behind, last]
    simp
  | case5 => cases h
  | case6 done cursor byte rest front noQuote noSlash visible ih =>
    obtain ⟨body, meant, pieces, rfl, last⟩ := ih h
    refine ⟨_, _, .byte ⟨noQuote, noSlash, UInt8.not_lt.mp visible⟩ pieces, by simp, ?_⟩
    rw [front, List.cons_append, ← last]

theorem plain_ofNat_iff : ∀ number < 0x80,
    Plain (UInt8.ofNat number) ↔
      0x20 ≤ number ∧ Char.ofNat number ≠ '"' ∧ Char.ofNat number ≠ '\\' := by
  decide

/-- A character is made of plain bytes when it may stand for itself. -/
theorem forall_plain_iff {letter : Char} :
    (∀ byte ∈ String.utf8EncodeChar letter, Plain byte) ↔
      0x20 ≤ letter.toNat ∧ letter ≠ '"' ∧ letter ≠ '\\' := by
  by_cases ascii : letter.toNat < 0x80
  · have own := plain_ofNat_iff letter.toNat ascii
    rw [Char.ofNat_toNat] at own
    rw [Utf8.utf8EncodeChar_of_one ascii, List.forall_mem_singleton, own]
  · refine iff_of_true (fun byte member => ?_) ⟨by omega, ?_, ?_⟩
    · exact plain_of_le (Utf8.le_of_mem_utf8EncodeChar (Nat.le_of_not_lt ascii) member)
    · rintro rfl
      exact ascii (by decide)
    · rintro rfl
      exact ascii (by decide)

/-- Bytes that continue a character stand for themselves: no escape begins in the middle. -/
theorem Pieces.exists_of_continues {body tail meant : Bytes} (pieces : Pieces body (tail ++ meant))
    (inside : ∀ byte ∈ tail, Utf8.Continues byte) :
    ∃ rest, body = tail ++ rest ∧ Pieces rest meant := by
  induction tail generalizing body with
  | nil => exact ⟨body, rfl, pieces⟩
  | cons first tail ih =>
    have continues := inside first (by simp)
    generalize all : first :: tail ++ meant = bytes at pieces
    cases pieces with
    | nil => cases all
    | byte plain onward =>
      cases all
      obtain ⟨rest, rfl, after⟩ := ih onward fun byte member => inside byte (by simp [member])
      exact ⟨rest, rfl, after⟩
    | @escape _ _ _ letter escape onward =>
      obtain ⟨lead, more, whole, begins, -⟩ := Utf8.exists_utf8EncodeChar letter
      rw [whole] at all
      exact absurd ((List.cons.inj all).1 ▸ continues) begins

/-- Pieces that add the bytes of characters spell these characters. -/
theorem Pieces.spelling {letters : List Char} {body : Bytes}
    (pieces : Pieces body (Utf8.bytes letters)) : Spelling body letters := by
  induction letters generalizing body with
  | nil =>
    generalize none : Utf8.bytes [] = meant at pieces
    cases pieces with
    | nil => exact .nil
    | byte => cases none
    | @escape _ _ _ letter =>
      obtain ⟨lead, more, whole, -⟩ := Utf8.exists_utf8EncodeChar letter
      rw [whole] at none
      cases none
  | cons letter letters ih =>
    generalize all : Utf8.bytes (letter :: letters) = meant at pieces
    obtain ⟨lead, tail, whole, -, inside⟩ := Utf8.exists_utf8EncodeChar letter
    cases pieces with
    | nil =>
      rw [Utf8.bytes_cons, whole] at all
      cases all
    | byte plain onward =>
      -- The first byte stands for itself, so the others of its character do as well.
      rw [Utf8.bytes_cons, whole] at all
      cases all
      obtain ⟨rest, rfl, after⟩ := onward.exists_of_continues inside
      have allPlain : ∀ byte ∈ String.utf8EncodeChar letter, Plain byte := by
        rw [whole, List.forall_mem_cons]
        refine ⟨plain, fun byte member => plain_of_le ?_⟩
        exact UInt8.le_iff_toNat_le.mpr (inside byte member).1
      obtain ⟨visible, noQuote, noSlash⟩ := forall_plain_iff.mp allPlain
      have spelling := Spelling.plain visible noQuote noSlash (ih after)
      rwa [whole] at spelling
    | escape escape onward =>
      obtain ⟨rfl, rfl⟩ := Utf8.bytes_cons_inj all.symm
      exact .escape escape (ih onward)

/-- Whatever is read up to a quote spells the characters that are given. -/
theorem takes_readText :
    Takes readText fun text value =>
      ∃ body, Spelling body value.toList ∧ text = body ++ [0x22] := by
  intro cursor stop value h
  rw [readText] at h
  obtain ⟨⟨bytes, after⟩, read, h⟩ := exists_of_bind_eq_ok h
  dsimp only at h
  split at h
  · rename_i letters decoded
    cases h
    obtain ⟨body, meant, pieces, rfl, front⟩ := pieces_of_readBytes read
    rw [Utf8.decode_eq_ok_iff.mp decoded] at pieces
    refine ⟨_, ⟨body, ?_, rfl⟩, by simp [front]⟩
    rw [String.toList_ofList]
    exact pieces.spelling
  · cases h

/-- A spelling spells the bytes of its characters. -/
theorem Spelling.spells {body : Bytes} {letters : List Char} (spelling : Spelling body letters) :
    Spells body (Utf8.bytes letters) := by
  induction spelling with
  | nil => exact .nil
  | plain visible noQuote noSlash _ ih =>
    exact (Spells.plain (forall_plain_iff.mpr ⟨visible, noQuote, noSlash⟩)).append ih
  | escape escape _ ih => exact (Spells.escape (reads_readEscaped escape)).append ih

/-- Every spelling is read up to its quote, as the characters that it spells, in whichever way each
of them is written. -/
theorem reads_readText_spelling {body : Bytes} {value : String}
    (spelling : Spelling body value.toList) (rest : Bytes) :
    Reads readText (body ++ 0x22 :: rest) value rest := by
  have read := reads_readText rest spelling.spells
  rwa [String.ofList_toList] at read

/-! ## Texts that are skipped -/

theorem covers_skipText :
    Covers skipText fun text => ∃ body, Passable body ∧ text = body ++ [0x22] := by
  intro cursor stop h
  fun_induction skipText cursor with
  | case1 => cases h
  | case2 cursor rest front =>
    cases h
    exact ⟨_, ⟨[], .nil, rfl⟩, by simp [front]⟩
  | case3 => cases h
  | case4 cursor rest _ after escaped front _ ih =>
    obtain ⟨text, escape, behind⟩ := takes_skipEscaped escaped
    obtain ⟨_, ⟨body, passable, rfl⟩, last⟩ := ih h
    dsimp only at behind
    rw [front, behind, last]
    rcases escape with ⟨byte, letter, listed, rfl⟩ | ⟨digits, number, hex, rfl⟩
    · exact ⟨_, ⟨_, .short listed passable, rfl⟩, by simp⟩
    · exact ⟨_, ⟨_, .number hex passable, rfl⟩, by simp⟩
  | case5 => cases h
  | case6 cursor byte rest front noQuote noSlash visible ih =>
    obtain ⟨_, ⟨body, passable, rfl⟩, last⟩ := ih h
    dsimp only at last
    rw [front, last]
    exact ⟨_, ⟨_, .byte (UInt8.not_lt.mp visible) noQuote noSlash passable, rfl⟩, by simp⟩

theorem passes_skipText {body : Bytes} (passable : Passable body) (rest : Bytes) :
    Passes skipText (body ++ 0x22 :: rest) rest := by
  have escaped {text onward : Bytes} (escape : Skippable text)
      (ih : Passes skipText onward rest) : Passes skipText (0x5C :: (text ++ onward)) rest := by
    rintro ⟨consumed, front⟩ rfl
    obtain ⟨after, success, behind⟩ := reads_skipEscaped escape onward ⟨consumed + 1, _⟩ rfl
    obtain ⟨stop, last, left⟩ := ih after behind
    refine ⟨stop, ?_, left⟩
    rw [skipText]
    simp only [show ((0x5C : UInt8) = 0x22) = False by decide, if_false, if_true]
    split
    · rename_i refused
      cases success.symm.trans refused
    · rename_i accepted
      cases success.symm.trans accepted
      exact last
  induction passable with
  | nil =>
    rintro ⟨consumed, front⟩ rfl
    refine ⟨⟨consumed + 1, rest⟩, ?_, rfl⟩
    rw [skipText]
    simp
  | byte visible noQuote noSlash _ ih =>
    rintro ⟨consumed, front⟩ rfl
    obtain ⟨stop, last, left⟩ := ih ⟨consumed + 1, _⟩ rfl
    refine ⟨stop, ?_, left⟩
    rw [List.cons_append, skipText]
    simp [noQuote, noSlash, leastPlain, UInt8.not_lt.mpr visible, last]
  | short listed _ ih =>
    have passes := escaped (.inl ⟨_, _, listed, rfl⟩) ih
    exact passes
  | number hex _ ih =>
    simp only [List.cons_append, List.append_assoc]
    exact escaped (.inr ⟨_, _, hex, rfl⟩) ih

/-! ## What spells characters can be skipped -/

theorem Passable.append_of_plain {text rest : Bytes} (plain : ∀ byte ∈ text, Plain byte)
    (passable : Passable rest) : Passable (text ++ rest) := by
  induction text with
  | nil => exact passable
  | cons byte text ih =>
    obtain ⟨noQuote, noSlash, visible⟩ := plain byte (by simp)
    exact .byte visible noQuote noSlash (ih fun other member => plain other (by simp [member]))

theorem Spelling.passable {body : Bytes} {letters : List Char} (spelling : Spelling body letters) :
    Passable body := by
  induction spelling with
  | nil => exact .nil
  | plain visible noQuote noSlash _ ih =>
    exact ih.append_of_plain (forall_plain_iff.mpr ⟨visible, noQuote, noSlash⟩)
  | escape escape _ ih =>
    cases escape with
    | short listed => exact .short listed ih
    | number hex whole => exact .number hex ih
    | pair hex upper hex' lower =>
      simpa using Passable.number hex (.number hex' ih)

end UnityBuild.Json
