import UnityBuild.Pattern.Reader
import UnityBuild.Pattern.Tree

/-!
# Escapes

A backslash gives characters their plain meaning, and gives some letters another meaning: controls,
characters by number, families, properties, and assertions.
-/

namespace UnityBuild.Pattern

/-- What one character or one escape stands for. -/
inductive Piece where
  | atom (atom : Atom)
  | any (span : Span)
  | assertion (span : Span) (assertion : Assertion)
  deriving DecidableEq, Repr

def Piece.span : Piece → Span
  | .atom inner => inner.span
  | .any span => span
  | .assertion span _ => span

namespace Reader

def isHexDigit (letter : Char) : Bool :=
  letter.isDigit || ('a' ≤ letter && letter ≤ 'f') || ('A' ≤ letter && letter ≤ 'F')

def hexValue (digits : List Char) : Nat :=
  digits.foldl (fun value digit =>
    value * 16 + if digit.isDigit then digit.toNat - 48 else digit.toUpper.toNat - 55) 0

/-- The character with the number that some digits write. The number of a surrogate is that of no
character. -/
def numbered (digits : List Char) (span : Span) : Reader Char :=
  let value := hexValue digits
  if value.isValidChar then return Char.ofNat value else fail .hexNoCharacter span

def hexDigits : Nat → Reader (List Char)
  | 0 => return []
  | count + 1 => do
    match ← letter? with
    | none => fail .escapeUnfinished (.point (← here))
    | some digit =>
      if isHexDigit digit then
        advance
        return digit :: (← hexDigits count)
      else fail .hexDigit (← letterSpan)

/-- Reads a number between braces, from the opening brace on. -/
def bracedNumber : Reader Char := do
  let brace ← here
  next
  let start ← here
  skip
  let digits ← takeSpaced isHexDigit
  match ← letter? with
  | none => fail .escapeUnfinished ⟨brace, ← here⟩
  | some '\x7d' =>
    let stop ← here
    advance
    if digits.isEmpty then fail .hexMissing ⟨brace, ← here⟩
    else numbered digits ⟨start, stop⟩
  | some _ => fail .hexDigit (← letterSpan)

/-- Reads the number of a character. Without braces it has as many digits as the letter before it
says. -/
def number (start : Place) (count : Nat) : Reader Atom := do
  advance
  match ← letter? with
  | none => fail .escapeUnfinished (.point (← here))
  | some '\x7b' =>
    let char ← bracedNumber
    return .letter ⟨char, false, ⟨start, ← here⟩⟩
  | some _ =>
    let first ← here
    let digits ← hexDigits count
    let char ← numbered digits ⟨first, ← here⟩
    return .letter ⟨char, count == 2, ⟨start, ← here⟩⟩

/-- The parts of a text before and behind the first place where a separator stands. -/
def splitAt? (separator : List Char) : List Char → Option (List Char × List Char)
  | [] => none
  | letter :: rest =>
    if separator.isPrefixOf (letter :: rest) then
      some ([], (letter :: rest).drop separator.length)
    else (splitAt? separator rest).map fun (before, behind) => (letter :: before, behind)

def query (text : List Char) : Query :=
  match splitAt? ['!', '='] text with
  | some (name, value) => .value name value true
  | none =>
    match [[':'], ['=']].findSome? (splitAt? · text) with
    | some (name, value) => .value name value false
    | none => .name text

/-- Reads a property: a letter, or a name between braces. -/
def property (start : Place) (negated : Bool) : Reader Atom := do
  advance
  match ← letter? with
  | none => fail .escapeUnfinished (.point (← here))
  | some '\x7b' =>
    advance
    let text ← takeSpaced (· != '\x7d')
    match ← letter? with
    | none => fail .escapeUnfinished (.point (← here))
    | some _ =>
      next
      return .property ⟨start, ← here⟩ (query text) negated
  | some '\\' => fail .propertyMalformed (← letterSpan)
  | some letter =>
    advance
    return .property ⟨start, ← here⟩ (.name [letter]) negated

/-- Punctuation has no meaning behind a backslash but its own, angle brackets apart. -/
def isPlain (letter : Char) : Bool :=
  letter.toNat < 128 && !letter.isAlphanum && letter != '<' && letter != '>'

def control? : Char → Option Char
  | 'a' => some '\x07'
  | 'f' => some '\x0c'
  | 't' => some '\t'
  | 'n' => some '\n'
  | 'r' => some '\r'
  | 'v' => some '\x0b'
  | _ => none

def assertion? : Char → Option Assertion
  | 'A' => some .textStart
  | 'z' => some .textEnd
  | 'b' => some .wordEdge
  | 'B' => some .noWordEdge
  | '<' => some .wordStart
  | '>' => some .wordEnd
  | _ => none

/-- The assertions that are named between braces behind `\b`. -/
def edge? (name : List Char) : Option Assertion :=
  [("start", Assertion.wordStart), ("end", .wordEnd), ("start-half", .wordStartHalf),
    ("end-half", .wordEndHalf)].findSome? fun (known, assertion) =>
      if known.toList = name then some assertion else none

def isEdgeLetter (letter : Char) : Bool := letter.isAlpha || letter == '-'

/-- Reads the name of an assertion between braces, from the opening brace on. If no name begins
there the brace belongs to a repetition and is not taken. -/
def edge (start : Place) : Reader (Option Assertion) := do
  let before ← get
  let brace ← here
  advance
  match ← letter? with
  | none => fail .edgeOrCountUnfinished ⟨start, ← here⟩
  | some letter =>
    if isEdgeLetter letter then
      let first ← here
      let name ← takeSpaced isEdgeLetter
      if (← letter?) = some '\x7d' then
        let stop ← here
        next
        match edge? name with
        | some assertion => return some assertion
        | none => fail .edgeUnknown ⟨first, stop⟩
      else fail .edgeUnclosed ⟨brace, ← here⟩
    else
      set before
      return none

/-- Reads what a letter other than a number, a family or a property means. The letter is taken. -/
def simple (start : Place) (letter : Char) : Reader Piece := do
  next
  let span : Span := ⟨start, ← here⟩
  if isPlain letter then return .atom (.letter ⟨letter, false, span⟩)
  else
    match control? letter, assertion? letter with
    | some char, _ => return .atom (.letter ⟨char, false, span⟩)
    | none, some .wordEdge =>
      if (← letter?) = some '\x7b' then
        match ← edge start with
        | some assertion => return .assertion ⟨start, ← here⟩ assertion
        | none => return .assertion span .wordEdge
      else return .assertion span .wordEdge
    | none, some assertion => return .assertion span assertion
    | none, none => fail .escapeUnknown span

/-- Reads a family, whose letter is negated in upper case. -/
def family (start : Place) (family : Family) (negated : Bool) : Reader Atom := do
  next
  return .family ⟨start, ← here⟩ family negated

def escape : Reader Piece := do
  let start ← here
  next
  match ← letter? with
  | none => fail .escapeUnfinished ⟨start, ← here⟩
  | some letter =>
    if letter.isDigit then fail .backreference ⟨start, (← letterSpan).stop⟩
    else
      match letter with
      | 'x' => return .atom (← number start 2)
      | 'u' => return .atom (← number start 4)
      | 'U' => return .atom (← number start 8)
      | 'p' => return .atom (← property start false)
      | 'P' => return .atom (← property start true)
      | 'd' => return .atom (← family start .digit false)
      | 'D' => return .atom (← family start .digit true)
      | 's' => return .atom (← family start .blank false)
      | 'S' => return .atom (← family start .blank true)
      | 'w' => return .atom (← family start .word false)
      | 'W' => return .atom (← family start .word true)
      | _ => simple start letter

end Reader

end UnityBuild.Pattern
