import UnityBuild.Text.CodeSet

/-!
# Tables of code points

Properties of characters come as tables of words. A table of *runs* goes through all code points
in order: a word is the length of a run and the name of what holds for it. A table of *ranges*
lists code points: a word is one code point, or the first and the last one with a hyphen between
them, in hexadecimal digits.
-/

namespace UnityBuild.Text

def words (line : String) : List (List Char) :=
  line.toList.splitOn ' '

/-- The value of digits in some base. Letters are digits from ten on. -/
def valueOf (base : Nat) (digits : List Char) : Nat :=
  digits.foldl (fun value digit =>
    value * base + if digit.isDigit then digit.toNat - 48 else digit.toUpper.toNat - 55) 0

/-- The first and the last code point of a word of a table of ranges. -/
def rangeOf (word : List Char) : Nat × Nat :=
  match word.splitOn '-' with
  | [first, last] => (valueOf 16 first, valueOf 16 last)
  | _ => (valueOf 16 word, valueOf 16 word)

def CodeSet.ofLines (lines : List String) : CodeSet :=
  .ofRanges (lines.flatMap fun line => (words line).map rangeOf)

/-- The steps of a search among some number of things, each half as long as the one before. -/
def stepsAmong (size : Nat) : List Nat :=
  ((List.range 21).map (Nat.pow 2 ·)).reverse.dropWhile (size < ·)

/-- A table of runs: the code point behind each run, and what holds for it. -/
structure Runs (α : Type) where
  bounds : Array (Nat × α)
  /-- The steps of a search, which every search in the table needs. -/
  steps : List Nat := stepsAmong bounds.size
  steps_eq : steps = stepsAmong bounds.size := by rfl

namespace Runs

variable {α : Type}

def ofLines (named : List Char → α) (lines : List String) : Runs α :=
  let runs := lines.flatMap words
  let (bounds, _) := runs.foldl (fun (bounds, stop) word =>
    let stop := stop + valueOf 10 (word.takeWhile Char.isDigit)
    (bounds.push (stop, named (word.dropWhile Char.isDigit)), stop)) (#[], 0)
  { bounds }

/-- The number of runs that end before a code point. -/
def before (runs : Runs α) (code : Nat) : Nat :=
  runs.steps.foldl (fun count step =>
    match runs.bounds[count + step - 1]? with
    | some (stop, _) => if stop ≤ code then count + step else count
    | none => count) 0

def find? (runs : Runs α) (code : Nat) : Option α :=
  runs.bounds[runs.before code]?.map (·.2)

/-- The code points of the runs for which a test holds. -/
def set (runs : Runs α) (holds : α → Bool) : CodeSet :=
  let (ranges, _) := runs.bounds.foldl (fun (ranges, start) (stop, value) =>
    (if holds value then (start, stop - 1) :: ranges else ranges, stop)) ([], 0)
  .ofRanges ranges

/-- The runs of a set and of the code points between its ranges. -/
def ofSet (set : CodeSet) : Runs Bool :=
  { bounds := (set.ranges.flatMap fun (first, last) =>
      [(first, false), (last + 1, true)]).toArray }

/-- Whether a code point is in the set of some runs. -/
def contains (runs : Runs Bool) (code : Nat) : Bool :=
  (runs.find? code).getD false

end Runs

end UnityBuild.Text
