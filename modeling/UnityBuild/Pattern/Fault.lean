import UnityBuild.Pattern.Place

/-!
# Faults in patterns

A fault is a mistake at a span of the pattern. Its report shows the pattern with carets below the
span. If the pattern has several lines, every line is shown with its number, and a span that goes
over several lines is described in words.
-/

namespace UnityBuild.Pattern

inductive Mistake where
  | assertionInBracket
  | rangeReversed
  | rangeEndNoCharacter
  | bracketUnclosed
  | numberMissing
  | numberTooLarge
  | hexMissing
  | hexNoCharacter
  | hexDigit
  | escapeUnfinished
  | escapeUnknown
  | negationDangling
  | flagRepeated
  | negationRepeated
  | flagsUnfinished
  | flagUnknown
  | nameRepeated
  | nameEmpty
  | nameCharacter
  | nameUnclosed
  | groupUnclosed
  | groupUnopened
  | tooDeep (limit : Nat)
  | countReversed
  | countMissing
  | countUnclosed
  | nothingToRepeat
  | edgeUnclosed
  | edgeUnknown
  | edgeOrCountUnfinished
  | propertyMalformed
  | backreference
  | lookAround
  | beyondAscii
  | beyondText
  | propertyUnknown
  | propertyValueUnknown
  deriving DecidableEq, Repr

def Mistake.text : Mistake → String
  | assertionInBracket => "invalid escape sequence found in character class"
  | rangeReversed => "invalid character class range, the start must be <= the end"
  | rangeEndNoCharacter => "invalid range boundary, must be a literal"
  | bracketUnclosed => "unclosed character class"
  | numberMissing => "decimal literal empty"
  | numberTooLarge => "decimal literal invalid"
  | hexMissing => "hexadecimal literal empty"
  | hexNoCharacter => "hexadecimal literal is not a Unicode scalar value"
  | hexDigit => "invalid hexadecimal digit"
  | escapeUnfinished => "incomplete escape sequence, reached end of pattern prematurely"
  | escapeUnknown => "unrecognized escape sequence"
  | negationDangling => "dangling flag negation operator"
  | flagRepeated => "duplicate flag"
  | negationRepeated => "flag negation operator repeated"
  | flagsUnfinished => "expected flag but got end of regex"
  | flagUnknown => "unrecognized flag"
  | nameRepeated => "duplicate capture group name"
  | nameEmpty => "empty capture group name"
  | nameCharacter => "invalid capture group character"
  | nameUnclosed => "unclosed capture group name"
  | groupUnclosed => "unclosed group"
  | groupUnopened => "unopened group"
  | tooDeep limit =>
    "exceed the maximum number of nested parentheses/brackets (" ++ toString limit ++ ")"
  | countReversed => "invalid repetition count range, the start must be <= the end"
  | countMissing => "repetition quantifier expects a valid decimal"
  | countUnclosed => "unclosed counted repetition"
  | nothingToRepeat => "repetition operator missing expression"
  | edgeUnclosed =>
    "special word boundary assertion is either unclosed or contains an invalid character"
  | edgeUnknown =>
    "unrecognized special word boundary assertion, valid choices are: start, end, start-half " ++
      "or end-half"
  | edgeOrCountUnfinished =>
    "found either the beginning of a special word boundary or a bounded repetition on a \\b " ++
      "with an opening brace, but no closing brace"
  | propertyMalformed => "invalid Unicode character class"
  | backreference => "backreferences are not supported"
  | lookAround => "look-around, including look-ahead and look-behind, is not supported"
  | beyondAscii => "Unicode not allowed here"
  | beyondText => "pattern can match invalid UTF-8"
  | propertyUnknown => "Unicode property not found"
  | propertyValueUnknown => "Unicode property value not found"

structure Fault where
  mistake : Mistake
  span : Span
  /-- The span that the mistake repeats, if there is one. -/
  earlier : Option Span
  deriving DecidableEq, Repr

namespace Fault

/-- The spans to show, in their order in the pattern. -/
def spans (fault : Fault) : List Span :=
  match fault.earlier with
  | none => [fault.span]
  | some other =>
    if other.start.precedes fault.span.start then [other, fault.span] else [fault.span, other]

/-- The carets below the given spans of a line, which begins at a column. A span without characters
has one caret. -/
def carets (column : Nat) : List Span → List Char
  | [] => []
  | span :: rest =>
    let width := max 1 (span.stop.column - span.start.column)
    List.replicate (span.start.column - column) ' ' ++ List.replicate width '^'
      ++ carets (max column span.start.column + width) rest

def lines (pattern : List Char) : List (List Char) :=
  let whole := pattern.splitOn '\n'
  let ended := whole.dropLast.map fun line =>
    if line.getLast? = some '\r' then line.dropLast else line
  match whole.getLast? with
  | some (letter :: rest) => ended ++ [letter :: rest]
  | _ => ended

/-- The lines of a pattern with carets below the spans that are in one line. Each line has its
number in front, or four blanks if the width of numbers is zero. -/
def shown (fault : Fault) (width : Nat) (pattern : List Char) : List (List Char) :=
  let margin := if width = 0 then 4 else width + 2
  (lines pattern).zipIdx.flatMap fun (line, index) =>
    let number := Nat.toDigits 10 (index + 1)
    let front :=
      if width = 0 then List.replicate margin ' '
      else List.replicate (width - number.length) ' ' ++ number ++ [':', ' ']
    let marked := fault.spans.filter fun span => span.isInLine && span.start.line == index + 1
    (front ++ line) ::
      if marked.isEmpty then [] else [List.replicate margin ' ' ++ carets 1 marked]

/-- The words for a span that goes over several lines. -/
def described (span : Span) : List Char :=
  ("on line " ++ toString span.start.line ++ " (column " ++ toString span.start.column
    ++ ") through line " ++ toString span.stop.line ++ " (column "
    ++ toString (span.stop.column - 1) ++ ")").toList

def report (fault : Fault) (pattern : List Char) : String :=
  let parts :=
    if pattern.contains '\n' then
      let divider := List.replicate 79 '~'
      let count := (pattern.splitOn '\n').length
      [divider] ++ fault.shown (Nat.toDigits 10 count).length pattern ++ [divider]
        ++ (fault.spans.filter (!·.isInLine)).map described
    else fault.shown 0 pattern
  "regex parse error:\n"
    ++ String.join (parts.map fun line => String.ofList line ++ "\n")
    ++ "error: " ++ fault.mistake.text

end Fault

end UnityBuild.Pattern
