/-!
# Space for machines

A machine consists of nodes of thirty-two bytes, with some bytes more for nodes of several ways. The
space for one machine is limited, and something that does not fit ends the count.
-/

namespace UnityBuild.Pattern

/-- What a machine takes up so far. -/
structure Space where
  nodes : Nat
  bytes : Nat
  deriving DecidableEq, Repr

/-- Something that takes up space, if there is enough left. -/
abbrev Room := Space → Option Space

namespace Space

def none : Space := ⟨0, 0⟩

def limit : Nat := 10485760

def size (space : Space) : Nat := 32 * space.nodes + space.bytes

end Space

namespace Room

def take (nodes bytes : Nat) : Room := fun space =>
  let taken : Space := ⟨space.nodes + nodes, space.bytes + bytes⟩
  if taken.size ≤ Space.limit then some taken else .none

def times (room : Room) : Nat → Room
  | 0, space => some space
  | count + 1, space =>
    match room space with
    | .none => .none
    | some space => times room count space

def all : List Room → Room
  | [], space => some space
  | room :: rooms, space =>
    match room space with
    | .none => .none
    | some space => all rooms space

end Room

end UnityBuild.Pattern
