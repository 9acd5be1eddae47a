import UnityBuild.Pattern.Place

/-!
# The form of a pattern

A pattern is a tree of characters, brackets, assertions, groups, repetitions, sequences and choices.
Every part that a fault may be about knows its span. Nothing is decided here about what a part
matches, since that depends on the flags in force where it stands.
-/

namespace UnityBuild.Pattern

/-- What a flag changes. -/
inductive Flag where
  | caseless
  | lines
  | dotMatchesAll
  | greedSwapped
  | unicode
  | carriageReturns
  | spaced
  deriving DecidableEq, Repr

def Flag.ofLetter? : Char → Option Flag
  | 'i' => some .caseless
  | 'm' => some .lines
  | 's' => some .dotMatchesAll
  | 'U' => some .greedSwapped
  | 'u' => some .unicode
  | 'R' => some .carriageReturns
  | 'x' => some .spaced
  | _ => none

/-- The flags that a group sets and clears. -/
structure Switches where
  on : List Flag
  off : List Flag
  deriving DecidableEq, Repr

namespace Switches

def none : Switches := ⟨[], []⟩

def apply (switches : Switches) (flag : Flag) (state : Bool) : Bool :=
  if switches.on.contains flag then true
  else if switches.off.contains flag then false
  else state

end Switches

inductive Assertion where
  | lineStart
  | lineEnd
  | textStart
  | textEnd
  | wordEdge
  | noWordEdge
  | wordStart
  | wordEnd
  | wordStartHalf
  | wordEndHalf
  deriving DecidableEq, Repr

/-- The families of characters that have an escape of their own. -/
inductive Family where
  | digit
  | blank
  | word
  deriving DecidableEq, Repr

/-- The families of ASCII characters that have a name in brackets. -/
inductive AsciiFamily where
  | alnum
  | alpha
  | ascii
  | blank
  | cntrl
  | digit
  | graph
  | lower
  | print
  | punct
  | space
  | upper
  | word
  | xdigit
  deriving DecidableEq, Repr

/-- The characters with a named property, or with a value of a property, or without it. -/
inductive Query where
  | name (name : List Char)
  | value (name value : List Char) (negative : Bool)
  deriving DecidableEq, Repr

/-- A character. It is written as a byte if exactly two hexadecimal digits stand for it. -/
structure Letter where
  char : Char
  isByte : Bool
  span : Span
  deriving DecidableEq, Repr

inductive Atom where
  | letter (letter : Letter)
  | family (span : Span) (family : Family) (negated : Bool)
  | property (span : Span) (query : Query) (negated : Bool)
  deriving DecidableEq, Repr

def Atom.span : Atom → Span
  | .letter character => character.span
  | family span _ _ => span
  | property span _ _ => span

inductive Operator where
  | intersection
  | difference
  | symmetricDifference
  deriving DecidableEq, Repr

inductive Members where
  | empty (span : Span)
  | atom (atom : Atom)
  | range (span : Span) (first last : Letter)
  | ascii (span : Span) (family : AsciiFamily) (negated : Bool)
  | bracket (span : Span) (negated : Bool) (members : Members)
  | union (span : Span) (parts : List Members)
  | combination (span : Span) (operator : Operator) (left right : Members)
  deriving Repr

def Members.span : Members → Span
  | empty span => span
  | .atom inner => inner.span
  | range span _ _ => span
  | ascii span _ _ => span
  | bracket span _ _ => span
  | union span _ => span
  | combination span _ _ _ => span

inductive Tree where
  | empty (span : Span)
  | flags (span : Span) (switches : Switches)
  | atom (atom : Atom)
  | any (span : Span)
  | assertion (span : Span) (assertion : Assertion)
  | bracket (span : Span) (negated : Bool) (members : Members)
  | repetition (span : Span) (body : Tree) (least : Nat) (most : Option Nat) (greedy : Bool)
  | group (span : Span) (captures : Bool) (switches : Switches) (body : Tree)
  | sequence (span : Span) (parts : List Tree)
  | choice (span : Span) (parts : List Tree)
  deriving Repr

def Tree.span : Tree → Span
  | empty span => span
  | flags span _ => span
  | .atom inner => inner.span
  | any span => span
  | assertion span _ => span
  | bracket span _ _ => span
  | repetition span _ _ _ _ => span
  | group span _ _ _ => span
  | sequence span _ => span
  | choice span _ => span

end UnityBuild.Pattern
