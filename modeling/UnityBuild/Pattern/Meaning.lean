import UnityBuild.Pattern.Expression
import UnityBuild.Pattern.Query
import UnityBuild.Text.Case

/-!
# The meaning of a pattern

A tree becomes an expression. The flags in force decide what a part means; a group restores the
flags that held before it. Without the flag for characters beyond ASCII only
ASCII characters may be in sets, and no set may be negated, since what is left would be no text.
-/

namespace UnityBuild.Pattern

open UnityBuild.Text (CodeSet)

/-- The flags in force. -/
structure Mode where
  caseless : Bool
  lines : Bool
  dotMatchesAll : Bool
  greedSwapped : Bool
  unicode : Bool
  carriageReturns : Bool
  deriving DecidableEq, Repr

namespace Mode

def standard : Mode := ⟨false, false, false, false, true, false⟩

def apply (mode : Mode) (switches : Switches) : Mode where
  caseless := switches.apply .caseless mode.caseless
  lines := switches.apply .lines mode.lines
  dotMatchesAll := switches.apply .dotMatchesAll mode.dotMatchesAll
  greedSwapped := switches.apply .greedSwapped mode.greedSwapped
  unicode := switches.apply .unicode mode.unicode
  carriageReturns := switches.apply .carriageReturns mode.carriageReturns

/-- The members of a set and those that differ from them in case only. -/
def close (mode : Mode) (set : CodeSet) : CodeSet :=
  if mode.unicode then Text.Case.close set else Text.Case.closeAscii set

/-- A set, closed under case where case makes no difference. -/
def fold (mode : Mode) (set : CodeSet) : CodeSet :=
  if mode.caseless then mode.close set else set

def negate (mode : Mode) (span : Span) (negated : Bool) (set : CodeSet) : Except Fault CodeSet :=
  if !negated then .ok set
  else if mode.unicode then .ok set.complement
  else .error ⟨.beyondText, span, none⟩

end Mode

namespace AsciiFamily

def ranges : AsciiFamily → List (Nat × Nat)
  | alnum => [(0x30, 0x39), (0x41, 0x5A), (0x61, 0x7A)]
  | alpha => [(0x41, 0x5A), (0x61, 0x7A)]
  | ascii => [(0x00, 0x7F)]
  | blank => [(0x09, 0x09), (0x20, 0x20)]
  | cntrl => [(0x00, 0x1F), (0x7F, 0x7F)]
  | digit => [(0x30, 0x39)]
  | graph => [(0x21, 0x7E)]
  | lower => [(0x61, 0x7A)]
  | print => [(0x20, 0x7E)]
  | punct => [(0x21, 0x2F), (0x3A, 0x40), (0x5B, 0x60), (0x7B, 0x7E)]
  | space => [(0x09, 0x0D), (0x20, 0x20)]
  | upper => [(0x41, 0x5A)]
  | word => [(0x30, 0x39), (0x41, 0x5A), (0x5F, 0x5F), (0x61, 0x7A)]
  | xdigit => [(0x30, 0x39), (0x41, 0x46), (0x61, 0x66)]

end AsciiFamily

namespace Family

def set (family : Family) (unicode : Bool) : CodeSet :=
  match family, unicode with
  | digit, true => Text.digits
  | blank, true => Text.blanks
  | word, true => Text.wordLetters
  | digit, false => .ofRanges (AsciiFamily.ranges .digit)
  | blank, false => .ofRanges (AsciiFamily.ranges .space)
  | word, false => .ofRanges (AsciiFamily.ranges .word)

end Family

namespace Letter

/-- The code point of a character. A byte beyond ASCII is a part of a character only. -/
def code (letter : Letter) (mode : Mode) : Except Fault Nat :=
  if !mode.unicode && letter.isByte && 0x7F < letter.char.toNat then
    .error ⟨.beyondText, letter.span, none⟩
  else .ok letter.char.toNat

def member (letter : Letter) (mode : Mode) : Except Fault Nat := do
  let code ← letter.code mode
  if !mode.unicode && 0x7F < code then .error ⟨.beyondAscii, letter.span, none⟩
  else .ok code

end Letter

namespace Atom

/-- The set of a family or a property, or of a character in a bracket. -/
def set (atom : Atom) (mode : Mode) : Except Fault CodeSet :=
  match atom with
  | .letter character => do
    let code ← character.member mode
    return .ofRanges [(code, code)]
  | .family span kind negated => mode.negate span negated (kind.set mode.unicode)
  | .property span query negated =>
    if mode.unicode then
      match query.set with
      | .ok set => mode.negate span (negated != query.isNegative) (mode.fold set)
      | .error mistake => .error ⟨mistake, span, none⟩
    else .error ⟨.beyondAscii, span, none⟩

end Atom

def Operator.combine : Operator → CodeSet → CodeSet → CodeSet
  | intersection => CodeSet.intersection
  | difference => CodeSet.difference
  | symmetricDifference => CodeSet.symmetricDifference

namespace Members

mutual

/-- The characters that a part of a bracket stands for. -/
def set (mode : Mode) : Members → Except Fault CodeSet
  | empty _ => .ok .empty
  | .atom inner => inner.set mode
  | range _ first last => do
    let low ← first.member mode
    let high ← last.member mode
    return .ofRanges [(low, high)]
  | ascii span family negated => mode.negate span negated (mode.fold (.ofRanges family.ranges))
  | bracket span negated members => do
    let inner ← set mode members
    mode.negate span negated (mode.fold inner)
  | union _ parts => do return .ofRanges (← ranges mode [] parts).flatten
  | combination _ operator left right => do
    let left ← set mode left
    let right ← set mode right
    return operator.combine (mode.fold left) (mode.fold right)

def ranges (mode : Mode) (done : List (List (Nat × Nat))) :
    List Members → Except Fault (List (List (Nat × Nat)))
  | [] => .ok done
  | part :: parts => do
    let first ← set mode part
    ranges mode (first.ranges :: done) parts

end

end Members

namespace Assertion

/-- The condition that an assertion stands for. -/
def look (assertion : Assertion) (mode : Mode) : Look :=
  match assertion with
  | lineStart =>
    if !mode.lines then .textStart else if mode.carriageReturns then .returnStart else .lineStart
  | lineEnd =>
    if !mode.lines then .textEnd else if mode.carriageReturns then .returnEnd else .lineEnd
  | textStart => .textStart
  | textEnd => .textEnd
  | wordEdge => .wordEdge !mode.unicode
  | noWordEdge => .noWordEdge !mode.unicode
  | wordStart => .wordStart !mode.unicode
  | wordEnd => .wordEnd !mode.unicode
  | wordStartHalf => .wordStartHalf !mode.unicode
  | wordEndHalf => .wordEndHalf !mode.unicode

end Assertion

namespace Tree

def dot (mode : Mode) (span : Span) : Except Fault CodeSet :=
  if !mode.unicode then .error ⟨.beyondText, span, none⟩
  else
    let ends := if mode.dotMatchesAll then []
      else if mode.carriageReturns then [(0xA, 0xA), (0xD, 0xD)]
      else [(0xA, 0xA)]
    .ok (CodeSet.ofRanges ends).complement

def oneOf (mode : Mode) (set : CodeSet) : Expression := .ofSet set !mode.unicode

def atomMeaning (mode : Mode) (atom : Atom) : Except Fault Expression :=
  match atom with
  | .letter character => do
    let code ← character.code mode
    if mode.caseless then return oneOf mode (mode.close (.ofRanges [(code, code)]))
    else return .text [character.char]
  | other => do return oneOf mode (← other.set mode)

mutual

/-- The meaning of a tree under some flags, and the flags behind it. -/
def meaning (mode : Mode) : Tree → Except Fault (Expression × Mode)
  | empty _ => .ok (.empty, mode)
  | flags _ switches => .ok (.empty, mode.apply switches)
  | .atom inner => do return (← atomMeaning mode inner, mode)
  | any span => do return (oneOf mode (← dot mode span), mode)
  | .assertion _ condition => .ok (.look (condition.look mode), mode)
  | bracket span negated members => do
    let inner ← members.set mode
    return (oneOf mode (← mode.negate span negated (mode.fold inner)), mode)
  | repetition _ body least most greedy => do
    let (body, mode) ← meaning mode body
    return (.ofRepetition body least most (greedy != mode.greedSwapped), mode)
  | group _ captures switches body => do
    let (body, _) ← meaning (mode.apply switches) body
    return (if captures then .capture body else body, mode)
  | sequence _ parts => do
    let (parts, mode) ← meanings mode [] parts
    return (.ofSequence parts.reverse, mode)
  | choice _ parts => do
    let (parts, mode) ← meanings mode [] parts
    return (.ofChoice parts.reverse, mode)

/-- The meanings of some trees, the last one first, in front of others. -/
def meanings (mode : Mode) (done : List Expression) :
    List Tree → Except Fault (List Expression × Mode)
  | [] => .ok (done, mode)
  | part :: parts => do
    let (first, mode) ← meaning mode part
    meanings mode (first :: done) parts

end

end Tree

end UnityBuild.Pattern
