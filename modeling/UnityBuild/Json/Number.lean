import UnityBuild.Decimal.Shortest
import UnityBuild.Json.Fault

/-!
# Numbers

A number is read digit by digit into sixty-four bits. Digits before the point that do not fit any
more count as powers of ten, and digits behind the point that do not fit are dropped. What has no
point, no exponent and no surplus digit is an integer, if a signed or unsigned word of that width
holds it. Everything else is the product of the significand and a power of ten, rounded twice: once
as a significand, and once as a product.

A number is shown with its shortest digits. It is positional from the fifth place behind the point
to the sixteenth before it, and has an exponent with a sign otherwise.
-/

namespace UnityBuild.Json

/-- One more than the greatest unsigned word. -/
def wordLimit : Nat := Nat.pow 2 64

/-- The greatest exponent that is computed with. -/
def greatestExponent : Nat := Nat.pow 2 31 - 1

/-- The greatest power of ten among the doubles. -/
def greatestPower : Nat := 308

structure NumberFormat where
  /-- The powers of ten of the first digit between which a number is positional. -/
  leastPositional : Int
  greatestPositional : Int

def shown : NumberFormat := ⟨-5, 15⟩

/-- The text of `digits * 10 ^ exponent`. -/
def NumberFormat.text (format : NumberFormat) (number : Decimal) : String :=
  let digits := Nat.toDigits 10 number.digits
  let first := number.exponent + (digits.length - 1 : Nat)
  if first < format.leastPositional || format.greatestPositional < first then
    let sign := if first < 0 then ['-'] else ['+']
    let fraction := if digits.length ≤ 1 then [] else '.' :: digits.drop 1
    String.ofList (digits.take 1 ++ fraction ++ ['e'] ++ sign ++ Nat.toDigits 10 first.natAbs)
  else if 0 ≤ number.exponent then
    String.ofList (digits ++ List.replicate number.exponent.toNat '0' ++ ['.', '0'])
  else if 0 ≤ first then
    let whole := first.toNat + 1
    String.ofList (digits.take whole ++ ['.'] ++ digits.drop whole)
  else
    String.ofList (['0', '.'] ++ List.replicate ((-first).toNat - 1) '0' ++ digits)

/-- The text of a finite double. -/
def decimalText (value : Float) : String :=
  let sign := if value.toBits.toNat < Nat.pow 2 63 then "" else "-"
  let magnitude := Decimal.Binary.ofBits value.toBits
  if magnitude.significand = 0 then sign ++ "0.0"
  else sign ++ shown.text magnitude.shortest

/-- A significand, and the power of ten it is multiplied with. -/
structure Scaled where
  significand : Nat
  exponent : Int
  deriving DecidableEq, Repr

def digitOf (byte : UInt8) : Nat := byte.toNat - 0x30

/-- Takes in a digit before the point. Once a digit did not fit, all later ones only count. -/
def Scaled.addWhole (number : Scaled) (byte : UInt8) : Scaled :=
  let significand := number.significand * 10 + digitOf byte
  if number.exponent = 0 && significand < wordLimit then ⟨significand, 0⟩
  else ⟨number.significand, number.exponent + 1⟩

/-- Takes in digits behind the point, up to the first that does not fit. -/
def Scaled.addFraction (number : Scaled) : Bytes → Scaled
  | [] => number
  | byte :: rest =>
    let significand := number.significand * 10 + digitOf byte
    if significand < wordLimit then
      Scaled.addFraction ⟨significand, number.exponent - 1⟩ rest
    else number

/-- Divides by the greatest power of ten until the exponent is in its range. -/
def shrink (value : Float) (exponent : Nat) : Float :=
  if _h : greatestPower < exponent then
    if value == 0.0 then value
    else shrink (value / Float.ofScientific 1 false greatestPower) (exponent - greatestPower)
  else value / Float.ofScientific 1 false exponent
termination_by exponent
decreasing_by simp only [greatestPower] at _h ⊢; omega

/-- The double that a scaled significand stands for, if there is one. -/
def Scaled.value? (number : Scaled) : Option Float :=
  let value := number.significand.toUInt64.toFloat
  if number.exponent < 0 then some (shrink value (-number.exponent).toNat)
  else if greatestPower < number.exponent.toNat then
    if number.significand = 0 then some value else none
  else
    let scaled := value * Float.ofScientific 1 false number.exponent.toNat
    if scaled.isInf then none else some scaled

/-- A number with a sign, as it is shown when something else was wanted. -/
def Scaled.decimal (number : Scaled) (negative : Bool) (cursor : Cursor) :
    Except Refusal (Found × Cursor) :=
  match number.value? with
  | some value => .ok (.decimal (decimalText (if negative then -value else value)), cursor)
  | none => .error (cursor.here .numberOutOfRange)

def integerOf (negative : Bool) (significand : Nat) : Option Int :=
  if negative then
    if 0 < significand && significand ≤ Nat.pow 2 63 then some (-(significand : Int)) else none
  else some significand

/-- Reads digits of an exponent, of which the first was read already. At the digit that makes the
exponent too large for a word the reading stops. -/
def exponentDigits (value : Nat) (consumed : Nat) : Bytes → Option Nat × Cursor
  | [] => (some value, ⟨consumed, []⟩)
  | byte :: rest =>
    if Cursor.isDigit byte then
      let next := value * 10 + digitOf byte
      if greatestExponent < next then (none, ⟨consumed + 1, rest⟩)
      else exponentDigits next (consumed + 1) rest
    else (some value, ⟨consumed, byte :: rest⟩)

def readExponent (number : Scaled) (negative : Bool) (cursor : Cursor) :
    Except Refusal (Found × Cursor) :=
  let (down, cursor) :=
    match cursor.rest with
    | 0x2D :: _ => (true, cursor.skip 1)
    | 0x2B :: _ => (false, cursor.skip 1)
    | _ => (false, cursor)
  match cursor.rest with
  | [] => .error (cursor.here .endInValue)
  | byte :: rest =>
    if !Cursor.isDigit byte then .error ((cursor.skip 1).here .invalidNumber)
    else
      match exponentDigits (digitOf byte) (cursor.consumed + 1) rest with
      | (some exponent, cursor) =>
        let change : Int := if down then -exponent else exponent
        Scaled.decimal ⟨number.significand, number.exponent + change⟩ negative cursor
      | (none, cursor) =>
        if number.significand ≠ 0 && !down then .error (cursor.here .numberOutOfRange)
        else Scaled.decimal ⟨0, 0⟩ negative cursor.skipDigits

def readFraction (number : Scaled) (negative : Bool) (cursor : Cursor) :
    Except Refusal (Found × Cursor) :=
  let after := cursor.skipDigits
  let digits := cursor.rest.take (after.consumed - cursor.consumed)
  if digits.isEmpty then
    .error (cursor.peek (if cursor.rest.isEmpty then .endInValue else .invalidNumber))
  else
    let number := number.addFraction digits
    match after.rest with
    | 0x65 :: _ => readExponent number negative (after.skip 1)
    | 0x45 :: _ => readExponent number negative (after.skip 1)
    | _ => number.decimal negative after

def readScale (number : Scaled) (negative : Bool) (cursor : Cursor) :
    Except Refusal (Found × Cursor) :=
  match cursor.rest with
  | 0x2E :: _ => readFraction number negative (cursor.skip 1)
  | 0x65 :: _ => readExponent number negative (cursor.skip 1)
  | 0x45 :: _ => readExponent number negative (cursor.skip 1)
  | _ =>
    match if number.exponent = 0 then integerOf negative number.significand else none with
    | some value => .ok (.integer value, cursor)
    | none => number.decimal negative cursor

/-- Reads a number whose sign was read already. A zero is not followed by digits. -/
def readUnsigned (negative : Bool) (cursor : Cursor) : Except Refusal (Found × Cursor) :=
  match cursor.rest with
  | [] => .error (cursor.here .endInValue)
  | 0x30 :: rest =>
    let cursor := cursor.skip 1
    if rest.head?.any Cursor.isDigit then .error (cursor.peek .invalidNumber)
    else readScale ⟨0, 0⟩ negative cursor
  | byte :: _ =>
    if Cursor.isDigit byte then
      let after := cursor.skipDigits
      let digits := cursor.rest.take (after.consumed - cursor.consumed)
      readScale (digits.foldl Scaled.addWhole ⟨0, 0⟩) negative after
    else .error ((cursor.skip 1).here .invalidNumber)

/-- Reads a number, of which a sign or a digit comes next. -/
def readNumber (cursor : Cursor) : Except Refusal (Found × Cursor) :=
  match cursor.rest with
  | 0x2D :: _ => readUnsigned true (cursor.skip 1)
  | _ => readUnsigned false cursor

end UnityBuild.Json
