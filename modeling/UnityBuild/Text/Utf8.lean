/-!
# Characters as bytes

A character is written as one to four bytes: a leading byte that tells how many follow, and
continuation bytes. A reader that goes byte by byte keeps the sequence it is in. A byte that cannot
continue that sequence ends it as malformed and is read again as a leading byte.

Two readers use these steps. `decodeLossy` puts the replacement character in the place of each
malformed sequence, so it reads every text. `decode` stops at the first malformed sequence and tells
how many bytes are left from there.
-/

namespace UnityBuild

abbrev Bytes := List UInt8

namespace Utf8

/-- A sequence that is not complete: its bits so far, the number of bytes read and owed, and the
range of the next byte. -/
structure Pending where
  bits : Nat
  read : Nat
  owed : Nat
  least : UInt8
  greatest : UInt8
  deriving DecidableEq, Repr

/-- What one byte does to a reader. -/
inductive Move where
  /-- A character is complete. -/
  | emit (letter : Char)
  /-- The sequence goes on. -/
  | wait (pending : Pending)
  /-- The byte does not belong to any well-formed sequence from here. -/
  | reject
  deriving DecidableEq, Repr

/-- A sequence of which one byte was read. The range of the second byte excludes spellings that are
longer than needed, surrogates, and numbers above the last character. -/
def Pending.led (lead : UInt8) (owed : Nat) (least greatest : UInt8) : Pending where
  bits := lead.toNat % Nat.pow 2 (6 - owed)
  read := 1
  owed := owed
  least := least
  greatest := greatest

def lead (byte : UInt8) : Move :=
  if byte < 0x80 then .emit (Char.ofNat byte.toNat)
  else if byte < 0xC2 then .reject
  else if byte < 0xE0 then .wait (.led byte 1 0x80 0xBF)
  else if byte = 0xE0 then .wait (.led byte 2 0xA0 0xBF)
  else if byte = 0xED then .wait (.led byte 2 0x80 0x9F)
  else if byte < 0xF0 then .wait (.led byte 2 0x80 0xBF)
  else if byte = 0xF0 then .wait (.led byte 3 0x90 0xBF)
  else if byte < 0xF4 then .wait (.led byte 3 0x80 0xBF)
  else if byte = 0xF4 then .wait (.led byte 3 0x80 0x8F)
  else .reject

/-- Reads a later byte of a sequence. -/
def Pending.next (pending : Pending) (byte : UInt8) : Move :=
  if pending.least ≤ byte ∧ byte ≤ pending.greatest then
    let bits := pending.bits * 64 + byte.toNat % 64
    if pending.owed ≤ 1 then .emit (Char.ofNat bits)
    else .wait ⟨bits, pending.read + 1, pending.owed - 1, 0x80, 0xBF⟩
  else .reject

/-- The mark for a malformed sequence. -/
def replacement : Char := '\uFFFD'

/-- A reader of every text: the characters so far, and the sequence it is in. -/
structure Decoder where
  done : Array Char
  pending : Option Pending

namespace Decoder

def start : Decoder := ⟨#[], none⟩

def begin (done : Array Char) (byte : UInt8) : Decoder :=
  match lead byte with
  | .emit letter => ⟨done.push letter, none⟩
  | .wait pending => ⟨done, some pending⟩
  | .reject => ⟨done.push replacement, none⟩

def feed (decoder : Decoder) (byte : UInt8) : Decoder :=
  match decoder.pending with
  | none => begin decoder.done byte
  | some pending =>
    match pending.next byte with
    | .emit letter => ⟨decoder.done.push letter, none⟩
    | .wait longer => ⟨decoder.done, some longer⟩
    | .reject => begin (decoder.done.push replacement) byte

/-- The characters read, with a mark for a sequence that the end of the text cuts off. -/
def finish (decoder : Decoder) : List Char :=
  match decoder.pending with
  | none => decoder.done.toList
  | some _ => (decoder.done.push replacement).toList

end Decoder

/-- The characters of a text, with a mark in the place of each malformed sequence. -/
def decodeLossy (text : Bytes) : List Char :=
  (text.foldl Decoder.feed .start).finish

/-- Reads a text of which some characters are done. -/
def decodeFrom (done : Array Char) : Option Pending → Bytes → Except Nat (List Char)
  | none, [] => .ok done.toList
  | some pending, [] => .error pending.read
  | none, byte :: rest =>
    match lead byte with
    | .emit letter => decodeFrom (done.push letter) none rest
    | .wait pending => decodeFrom done (some pending) rest
    | .reject => .error (1 + rest.length)
  | some pending, byte :: rest =>
    match pending.next byte with
    | .emit letter => decodeFrom (done.push letter) none rest
    | .wait longer => decodeFrom done (some longer) rest
    | .reject => .error (pending.read + 1 + rest.length)

/-- The characters of a text, or the number of bytes from its first malformed sequence to its end.
-/
def decode (text : Bytes) : Except Nat (List Char) :=
  decodeFrom #[] none text

def encode (text : String) : Bytes :=
  text.toList.flatMap String.utf8EncodeChar

end Utf8

end UnityBuild
