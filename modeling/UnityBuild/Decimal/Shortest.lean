/-!
# The shortest decimal of a binary number

A finite binary floating-point number is the one that all reals near it round to. Among the decimals
that round to it, the shortest is the one whose last digit has the greatest place value; among
several of those, the one nearest to the number; and of two equally near ones, the one with the even
last digit.

The search goes through the place values from the greatest down. On each grid only the two
neighbours of the number can be nearest, so only they are tried. All comparisons are made on natural
numbers, after both sides are multiplied by the denominators.
-/

namespace UnityBuild

/-- The number `digits * 10 ^ exponent`. -/
structure Decimal where
  digits : Nat
  exponent : Int
  deriving DecidableEq, Repr

namespace Decimal

/-- The number `significand * 2 ^ exponent`. -/
structure Binary where
  significand : Nat
  exponent : Int
  /-- The next smaller number is half as far away as the next greater one. -/
  narrowBelow : Bool
  deriving DecidableEq, Repr

/-- The least exponent of a double, and the number of bits behind its leading one. -/
def leastExponent : Int := -1074
def fractionBits : Nat := 52

/-- The magnitude of a finite double. -/
def Binary.ofBits (bits : UInt64) : Binary :=
  let fraction := bits.toNat % Nat.pow 2 fractionBits
  let field := bits.toNat / Nat.pow 2 fractionBits % Nat.pow 2 11
  if field = 0 then ⟨fraction, leastExponent, false⟩
  else
    ⟨Nat.pow 2 fractionBits + fraction, leastExponent + (field - 1 : Nat),
      fraction == 0 && 1 < field⟩

/-- A number between its neighbours on the grid of the multiples of a power of ten. All members are
multiples of one unit, which is a quarter of the last place of the binary number, or finer. -/
structure Grid where
  low : Nat
  value : Nat
  high : Nat
  step : Nat
  deriving DecidableEq, Repr

/-- The reals that round to a binary number, seen on the grid of a power of ten. -/
def Binary.grid (number : Binary) (power : Int) : Grid :=
  let quarter := number.exponent - 2
  let scale := Nat.pow 2 quarter.toNat * Nat.pow 10 (-power).toNat
  { low := (4 * number.significand - if number.narrowBelow then 1 else 2) * scale
    value := 4 * number.significand * scale
    high := (4 * number.significand + 2) * scale
    step := Nat.pow 10 power.toNat * Nat.pow 2 (-quarter).toNat }

/-- Whether a multiple of the step rounds to the number. The ends of the interval belong to it when
the significand is even. -/
def Grid.holds (grid : Grid) (closed : Bool) (multiple : Nat) : Bool :=
  let point := multiple * grid.step
  if closed then grid.low ≤ point && point ≤ grid.high else grid.low < point && point < grid.high

/-- The nearest multiple of the step that rounds to the number. -/
def Grid.nearest? (grid : Grid) (closed : Bool) : Option Nat :=
  let below := grid.value / grid.step
  let rest := grid.value % grid.step
  let above := below + 1
  match 0 < below && grid.holds closed below, grid.holds closed above with
  | false, false => none
  | true, false => some below
  | false, true => some above
  | true, true =>
    if 2 * rest < grid.step || (2 * rest == grid.step && below % 2 == 0) then some below
    else some above

/-- The powers of ten from which digits of a double can start, in descending order. -/
def powers : List Int :=
  (List.range 640).map fun index => 310 - Int.ofNat index

/-- The shortest decimal that rounds to a number other than zero. -/
def Binary.shortest (number : Binary) : Decimal :=
  let closed := number.significand % 2 == 0
  (powers.findSome? fun power =>
    ((number.grid power).nearest? closed).map fun digits => ⟨digits, power⟩).getD ⟨0, 0⟩

end Decimal

end UnityBuild
