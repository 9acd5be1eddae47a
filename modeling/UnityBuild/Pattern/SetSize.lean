import Std.Data.HashMap
import UnityBuild.Pattern.ByteRanges
import UnityBuild.Pattern.Expression
import UnityBuild.Pattern.Space

/-!
# Sizes of sets

A set of ASCII characters is one node with a way for each of its ranges, and a node where the ways
end. Beyond ASCII a set has nodes for the bytes of its characters. A node that is the same as one
that was made before, and is still remembered, is not made again. What is remembered has a slot that
depends on its contents, and is forgotten when something else takes the slot.
-/

namespace UnityBuild.Pattern

open UnityBuild.Text (CodeSet)

/-- A space, and the nodes that are remembered, each with its contents and its number. -/
structure Memory where
  space : Space
  slots : Std.HashMap UInt64 (List Nat × Nat)

namespace Memory

/-- Spreads some contents over slots. Each number is mixed into the sum and multiplied with it. -/
def slot (slots : UInt64) (contents : List Nat) : UInt64 :=
  contents.foldl (fun sum number => (sum ^^^ number.toUInt64) * 1099511628211)
    14695981039346656037 % slots

/-- The number of a node, which is made if it is not remembered. -/
def node (slots : UInt64) (contents : List Nat) (bytes : Nat) (memory : Memory) :
    Option (Nat × Memory) :=
  let slot := slot slots contents
  let make : Unit → Option (Nat × Memory) := fun _ => do
    let space ← Room.take 1 bytes memory.space
    return (memory.space.nodes, ⟨space, memory.slots.insert slot (contents, memory.space.nodes)⟩)
  match memory.slots[slot]? with
  | some (known, number) => if known = contents then some (number, memory) else make ()
  | none => make ()

/-- The number of slots for nodes that are read forward. -/
def forwardSlots : UInt64 := 10000

/-- The node for sequences of ranges that lead to a target. Those that begin alike share their first
range. Its contents are its ranges, each with the number of the node behind it. -/
def forward (target : Nat) : Nat → List ByteRanges → Memory → Option (Nat × Memory)
  | 0, _, memory => some (target, memory)
  | depth + 1, sequences, memory => do
    let groups := sequences.splitBy fun ranges others => ranges.head? == others.head?
    let (contents, memory) ← groups.foldlM (fun (contents, memory) group =>
      match group with
      | ((first, last) :: rest) :: _ => do
        let (next, memory) ←
          if rest.isEmpty then some (target, memory)
          else forward target depth (group.map List.tail) memory
        return (next :: last :: first :: contents, memory)
      | _ => some (contents, memory)) ([], memory)
    node forwardSlots contents.reverse (8 * groups.length) memory

/-- The number of slots for nodes that are read backward. -/
def backwardSlots : UInt64 := 1000

/-- The nodes for one sequence, which is read from its end. The contents of a node are a range and
the number of the node behind it. -/
def backward (target : Nat) (ranges : ByteRanges) (memory : Memory) : Option Memory := do
  let (_, memory) ← ranges.foldlM (fun (next, memory) (first, last) =>
    node backwardSlots [next, first, last] 0 memory) (target, memory)
  let space ← Room.take 0 4 memory.space
  return { memory with space := space }

end Memory

def longest : Nat := 4

def Room.ofSet (direction : Direction) (set : CodeSet) : Room :=
  if set.isBelow 0x80 then take 2 (8 * set.ranges.length)
  else
    let sequences := ByteRanges.ofSet set
    match direction with
    | .forward => fun space => do
      let (_, memory) ← Memory.forward space.nodes longest sequences ⟨← take 1 0 space, ∅⟩
      return memory.space
    | .backward => fun space => do
      let memory : Memory := ⟨← take 2 0 space, ∅⟩
      let memory ← sequences.foldlM (fun memory ranges =>
        memory.backward (space.nodes + 1) ranges) memory
      return memory.space

end UnityBuild.Pattern
