import UnityBuild.Text.Families

/-!
# Conditions on places

A condition speaks of a place in a text by the characters before and behind it. Some conditions
tell word characters from others, among all characters or among those of ASCII only.
-/

namespace UnityBuild.Pattern

open UnityBuild.Text (Runs)

/-- A condition on the place between two characters. -/
inductive Look where
  | textStart
  | textEnd
  | lineStart
  | lineEnd
  /-- The start of a line, where a carriage return ends a line, too. -/
  | returnStart
  | returnEnd
  | wordEdge (ascii : Bool)
  | noWordEdge (ascii : Bool)
  | wordStart (ascii : Bool)
  | wordEnd (ascii : Bool)
  | wordStartHalf (ascii : Bool)
  | wordEndHalf (ascii : Bool)
  deriving DecidableEq, Repr

/-- The characters before and behind a place in a text. -/
structure Surroundings where
  before : Option Char
  behind : Option Char
  deriving DecidableEq, Repr

namespace Surroundings

def wordRuns : Runs Bool := .ofSet Text.wordLetters

def isWord (ascii : Bool) (letter : Char) : Bool :=
  if ascii then letter.isAlphanum || letter == '_' else wordRuns.contains letter.toNat

def wordBefore (place : Surroundings) (ascii : Bool) : Bool := place.before.any (isWord ascii)

def wordBehind (place : Surroundings) (ascii : Bool) : Bool := place.behind.any (isWord ascii)

end Surroundings

def Look.holds (place : Surroundings) : Look → Bool
  | textStart => place.before.isNone
  | textEnd => place.behind.isNone
  | lineStart => place.before.isNone || place.before == some '\n'
  | lineEnd => place.behind.isNone || place.behind == some '\n'
  | returnStart =>
    place.before.isNone || place.before == some '\n'
      || (place.before == some '\r' && place.behind != some '\n')
  | returnEnd =>
    place.behind.isNone || place.behind == some '\r'
      || (place.behind == some '\n' && place.before != some '\r')
  | wordEdge ascii => place.wordBefore ascii != place.wordBehind ascii
  | noWordEdge ascii => place.wordBefore ascii == place.wordBehind ascii
  | wordStart ascii => !place.wordBefore ascii && place.wordBehind ascii
  | wordEnd ascii => place.wordBefore ascii && !place.wordBehind ascii
  | wordStartHalf ascii => !place.wordBefore ascii
  | wordEndHalf ascii => !place.wordBehind ascii

end UnityBuild.Pattern
