import UnityBuild.Text.CodeSet

/-!
# Ranges of characters as ranges of bytes

The characters of a range are written as one to four bytes. Ranges of bytes in a sequence stand for
all texts with a byte from each of them, so a range of characters becomes several sequences.
-/

namespace UnityBuild.Pattern

open UnityBuild.Text (CodeSet)

/-- The first and the last byte of each range of a sequence. -/
abbrev ByteRanges := List (Nat × Nat)

namespace ByteRanges

/-- The sequences for the numbers between two, each with a leading byte and some bytes of six bits.
The leading byte holds the bits that are left, and a mark. -/
def ofNumbers (mark : Nat) : Nat → Nat → Nat → List ByteRanges
  | 0, first, last => [[(mark + first, mark + last)]]
  | count + 1, first, last =>
    let block := Nat.pow 64 (count + 1)
    let low := first / block
    let high := last / block
    let inBlock (index : Nat) (ranges : ByteRanges) : ByteRanges :=
      (mark + index, mark + index) :: ranges
    if low = high then (ofNumbers 0x80 count (first % block) (last % block)).map (inBlock low)
    else
      let front := if first % block = 0 then []
        else (ofNumbers 0x80 count (first % block) (block - 1)).map (inBlock low)
      let back := if last % block = block - 1 then []
        else (ofNumbers 0x80 count 0 (last % block)).map (inBlock high)
      let start := if front.isEmpty then low else low + 1
      let stop := if back.isEmpty then high else high - 1
      let middle := if stop < start then []
        else (ofNumbers 0x80 count 0 (block - 1)).map ((mark + start, mark + stop) :: ·)
      front ++ middle ++ back

/-- The ranges of code points that are written alike: the mark of the leading byte, the number of
bytes behind it, and the first and the last code point. Surrogates are not written. -/
def lengths : List (Nat × Nat × Nat × Nat) :=
  [(0x00, 0, 0x0, 0x7F), (0xC0, 1, 0x80, 0x7FF), (0xE0, 2, 0x800, 0xD7FF),
    (0xE0, 2, 0xE000, 0xFFFF), (0xF0, 3, 0x10000, 0x10FFFF)]

/-- The sequences for a range of code points, in ascending order. -/
def ofRange (first last : Nat) : List ByteRanges :=
  lengths.flatMap fun (mark, count, low, high) =>
    if min last high < max first low then []
    else ofNumbers mark count (max first low) (min last high)

def ofSet (set : CodeSet) : List ByteRanges :=
  set.ranges.flatMap fun (first, last) => ofRange first last

end ByteRanges

end UnityBuild.Pattern
