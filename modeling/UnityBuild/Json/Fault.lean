import UnityBuild.Json.Cursor
import UnityBuild.Text.Quoted

/-!
# Faults of a JSON text

Every reason for which a text is no compilation database. A fault belongs to one of three
categories: the text ended too early, it is no JSON, or it is JSON that says something else than a
database.

Readers refuse a text with a fault and with the number of bytes read so far. The line and the column
are computed from that number once, for the whole text.
-/

namespace UnityBuild.Json

/-- The members of an entry. -/
inductive Field where
  | directory
  | command
  | file
  deriving DecidableEq, Repr

def Field.name : Field → String
  | directory => "directory"
  | command => "command"
  | file => "file"

/-- What a reader wants where a value begins. -/
inductive Wanted where
  | sequence
  | entry
  | text
  deriving DecidableEq, Repr

def Wanted.phrase : Wanted → String
  | sequence => "a sequence"
  | entry => "struct CompileCommand"
  | text => "a string"

/-- A value of another kind than was wanted. A number with a fraction is given by its text. -/
inductive Found where
  | null
  | boolean (value : Bool)
  | integer (value : Int)
  | decimal (digits : String)
  | text (value : String)
  | sequence
  | map
  deriving DecidableEq, Repr

def Found.phrase : Found → String
  | null => "null"
  | boolean value => "boolean `" ++ (if value then "true" else "false") ++ "`"
  | integer value => "integer `" ++ toString value ++ "`"
  | decimal digits => "floating point `" ++ digits ++ "`"
  | text value => "string " ++ Text.quoted value
  | sequence => "sequence"
  | map => "map"

inductive Fault where
  | endInText
  | endInValue
  | endInList
  | endInObject
  | expectedColon
  | expectedListEnd
  | expectedObjectEnd
  | expectedWord
  | expectedValue
  | invalidEscape
  | invalidNumber
  | numberOutOfRange
  | invalidCodePoint
  | controlCharacter
  | keyIsNoText
  | loneSurrogate
  | endOfEscapePair
  | trailingComma
  | trailingCharacters
  | wrongKind (found : Found) (wanted : Wanted)
  | wrongLength (count : Nat)
  | missing (field : Field)
  | repeated (field : Field)
  deriving DecidableEq, Repr

inductive Category where
  | grammar
  | data
  | ending
  deriving DecidableEq, Repr

namespace Fault

def phrase : Fault → String
  | endInText => "EOF while parsing a string"
  | endInValue => "EOF while parsing a value"
  | endInList => "EOF while parsing a list"
  | endInObject => "EOF while parsing an object"
  | expectedColon => "expected `:`"
  | expectedListEnd => "expected `,` or `]`"
  | expectedObjectEnd => "expected `,` or `\x7d`"
  | expectedWord => "expected ident"
  | expectedValue => "expected value"
  | invalidEscape => "invalid escape"
  | invalidNumber => "invalid number"
  | numberOutOfRange => "number out of range"
  | invalidCodePoint => "invalid unicode code point"
  | controlCharacter => "control character (\\u0000-\\u001F) found while parsing a string"
  | keyIsNoText => "key must be a string"
  | loneSurrogate => "lone leading surrogate in hex escape"
  | endOfEscapePair => "unexpected end of hex escape"
  | trailingComma => "trailing comma"
  | trailingCharacters => "trailing characters"
  | wrongKind found wanted => "invalid type: " ++ found.phrase ++ ", expected " ++ wanted.phrase
  | wrongLength count =>
    "invalid length " ++ toString count ++ ", expected " ++ Wanted.entry.phrase
      ++ " with 3 elements"
  | missing field => "missing field `" ++ field.name ++ "`"
  | repeated field => "duplicate field `" ++ field.name ++ "`"

def category : Fault → Category
  | endInText | endInValue | endInList | endInObject => .ending
  | wrongKind .. | wrongLength _ | missing _ | repeated _ => .data
  | _ => .grammar

end Fault

/-- A fault, the number of bytes read when it was found, and how many columns it lies before them.
-/
structure Refusal where
  fault : Fault
  consumed : Nat
  back : Nat
  deriving DecidableEq, Repr

def Cursor.here (cursor : Cursor) (fault : Fault) : Refusal :=
  ⟨fault, cursor.consumed, 0⟩

def Cursor.peek (cursor : Cursor) (fault : Fault) : Refusal :=
  ⟨fault, cursor.peeked, 0⟩

/-- A reader made of two steps succeeds when both do. -/
theorem exists_of_bind_eq_ok {ε α β : Type} {first : Except ε α} {next : α → Except ε β}
    {value : β} (h : (first >>= next) = .ok value) :
    ∃ middle, first = .ok middle ∧ next middle = .ok value := by
  cases first with
  | error => cases h
  | ok middle => exact ⟨middle, rfl, h⟩

/-- A fault with its place in the text. -/
structure Complaint where
  fault : Fault
  position : Position
  deriving DecidableEq, Repr

def Refusal.complaint (refusal : Refusal) (text : Bytes) : Complaint :=
  let position := Position.of text refusal.consumed
  ⟨refusal.fault, ⟨position.line, position.column - refusal.back⟩⟩

def Complaint.message (complaint : Complaint) : String :=
  complaint.fault.phrase ++ " at line " ++ toString complaint.position.line ++ " column "
    ++ toString complaint.position.column

end UnityBuild.Json
