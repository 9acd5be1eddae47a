/-!
# Places in a pattern

A place is given by a line and a column, both counted from one. A span reaches from a place up to
another, which is the place behind its last character.
-/

namespace UnityBuild.Pattern

structure Place where
  line : Nat
  column : Nat
  deriving DecidableEq, Repr

namespace Place

def first : Place := ⟨1, 1⟩

def after (place : Place) (letter : Char) : Place :=
  if letter = '\n' then ⟨place.line + 1, 1⟩ else ⟨place.line, place.column + 1⟩

def precedes (place other : Place) : Bool :=
  place.line < other.line || (place.line = other.line && place.column < other.column)

end Place

structure Span where
  start : Place
  stop : Place
  deriving DecidableEq, Repr

namespace Span

def single (place : Place) (letter : Char) : Span := ⟨place, place.after letter⟩

def point (place : Place) : Span := ⟨place, place⟩

def isInLine (span : Span) : Bool := span.start.line = span.stop.line

end Span

end UnityBuild.Pattern
