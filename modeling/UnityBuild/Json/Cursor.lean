import UnityBuild.Text.Utf8

/-!
# Cursors in a text of bytes

A cursor holds the bytes that are not read yet and counts the bytes that are. The count is what a
refusal refers to: *here* is behind the last byte read, and the *peek* position is behind the byte
that was looked at and not read, or at the end of the text.

A position on a line counts the bytes behind the last newline before it, so a newline that was just
read stands in column zero of the next line.
-/

namespace UnityBuild.Json

structure Cursor where
  consumed : Nat
  rest : Bytes
  deriving DecidableEq, Repr

namespace Cursor

def start (text : Bytes) : Cursor := ⟨0, text⟩

/-- The position behind the next byte, or at the end. -/
def peeked (cursor : Cursor) : Nat :=
  if cursor.rest.isEmpty then cursor.consumed else cursor.consumed + 1

def skip : Cursor → (count : Nat) → Cursor
  | cursor, 0 => cursor
  | ⟨consumed, []⟩, _ + 1 => ⟨consumed, []⟩
  | ⟨consumed, _ :: rest⟩, count + 1 => skip ⟨consumed + 1, rest⟩ count

/-- Reads the bytes at the front that satisfy a test. -/
def skipWhile (test : UInt8 → Bool) : (consumed : Nat) → Bytes → Cursor
  | consumed, [] => ⟨consumed, []⟩
  | consumed, byte :: rest =>
    if test byte then skipWhile test (consumed + 1) rest else ⟨consumed, byte :: rest⟩

def isBlank (byte : UInt8) : Bool :=
  byte == 0x20 || byte == 0x0A || byte == 0x09 || byte == 0x0D

def isDigit (byte : UInt8) : Bool :=
  0x30 ≤ byte && byte ≤ 0x39

def skipBlank (cursor : Cursor) : Cursor :=
  skipWhile isBlank cursor.consumed cursor.rest

def skipDigits (cursor : Cursor) : Cursor :=
  skipWhile isDigit cursor.consumed cursor.rest

/-- One cursor is further on in the text than another. -/
def Ahead (later earlier : Cursor) : Prop :=
  later.rest.length < earlier.rest.length

theorem length_skipWhile (test : UInt8 → Bool) (consumed : Nat) (text : Bytes) :
    (skipWhile test consumed text).rest.length ≤ text.length := by
  fun_induction skipWhile test consumed text with
  | case1 => simp
  | case2 _ _ _ _ ih => simp only [List.length_cons]; omega
  | case3 => simp

theorem length_skipBlank (cursor : Cursor) :
    cursor.skipBlank.rest.length ≤ cursor.rest.length :=
  length_skipWhile ..

theorem length_skipDigits (cursor : Cursor) :
    cursor.skipDigits.rest.length ≤ cursor.rest.length :=
  length_skipWhile ..

@[simp] theorem skip_zero (cursor : Cursor) : cursor.skip 0 = cursor := by
  cases cursor
  rfl

@[simp] theorem skip_cons (consumed : Nat) (byte : UInt8) (rest : Bytes) (count : Nat) :
    (Cursor.mk consumed (byte :: rest)).skip (count + 1) =
      (Cursor.mk (consumed + 1) rest).skip count := rfl

@[simp] theorem rest_skip (cursor : Cursor) (count : Nat) :
    (cursor.skip count).rest = cursor.rest.drop count := by
  fun_induction skip cursor count with
  | case1 => simp
  | case2 => simp
  | case3 _ _ _ _ ih => simpa using ih

theorem length_skip (cursor : Cursor) (count : Nat) :
    (cursor.skip count).rest.length = cursor.rest.length - count := by
  simp

end Cursor

/-- A place in a text, by line from one and by byte. -/
structure Position where
  line : Nat
  column : Nat
  deriving DecidableEq, Repr

def Position.of (text : Bytes) (count : Nat) : Position :=
  (text.take count).foldl
    (fun position byte =>
      if byte = 0x0A then ⟨position.line + 1, 0⟩ else ⟨position.line, position.column + 1⟩)
    ⟨1, 0⟩

end UnityBuild.Json
