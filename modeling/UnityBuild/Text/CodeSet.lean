/-!
# Sets of code points

A set of code points is a list of ranges in ascending order, both ends included. Between two ranges
there is always a code point that is not in the set, so every set has one list only.
-/

namespace UnityBuild.Text

structure CodeSet where
  ranges : List (Nat × Nat)
  deriving DecidableEq, Repr

namespace CodeSet

def top : Nat := 0x10FFFF

/-- Puts a range in front of ranges of which none begins before it. -/
def attach (range : Nat × Nat) : List (Nat × Nat) → List (Nat × Nat)
  | [] => [range]
  | next :: rest =>
    if next.1 ≤ range.2 + 1 then attach (range.1, max range.2 next.2) rest
    else range :: next :: rest

/-- The code points of some ranges, which may be in any order and overlap. -/
def ofRanges (ranges : List (Nat × Nat)) : CodeSet :=
  ⟨(ranges.mergeSort (·.1 ≤ ·.1)).foldr attach []⟩

def empty : CodeSet := ⟨[]⟩

/-- Whether a code point is in one of some ascending ranges. -/
def within (code : Nat) : List (Nat × Nat) → Bool
  | [] => false
  | (first, last) :: rest => !(code < first) && (code ≤ last || within code rest)

def contains (set : CodeSet) (code : Nat) : Bool :=
  within code set.ranges

/-- The code points from `start` on that are in none of some ascending ranges. -/
def gaps (start : Nat) : List (Nat × Nat) → List (Nat × Nat)
  | [] => if start ≤ top then [(start, top)] else []
  | (first, last) :: rest =>
    if start < first then (start, first - 1) :: gaps (last + 1) rest else gaps (last + 1) rest

def complement (set : CodeSet) : CodeSet :=
  ⟨gaps 0 set.ranges⟩

def union (left right : CodeSet) : CodeSet :=
  ofRanges (left.ranges ++ right.ranges)

def intersection (left right : CodeSet) : CodeSet :=
  (left.complement.union right.complement).complement

def difference (left right : CodeSet) : CodeSet :=
  left.intersection right.complement

def symmetricDifference (left right : CodeSet) : CodeSet :=
  (left.difference right).union (right.difference left)

def isBelow (set : CodeSet) (code : Nat) : Bool :=
  set.ranges.all (·.2 < code)

end CodeSet

end UnityBuild.Text
