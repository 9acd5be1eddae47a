import UnityBuild.Pattern.Bracket
import UnityBuild.Pattern.Group

/-!
# Reading a whole pattern

A pattern is a choice between sequences. Each part of a sequence is a group, a bracket, an escape
or a character, and may be repeated by the signs behind it.
-/

namespace UnityBuild.Pattern

/-- The sequence read so far: where it begins, and its parts, the last one first. -/
structure Sequence where
  start : Place
  parts : List Tree

namespace Sequence

def push (sequence : Sequence) (part : Tree) : Sequence :=
  { sequence with parts := part :: sequence.parts }

/-- A sequence of one part is that part. -/
def tree (sequence : Sequence) (stop : Place) : Tree :=
  match sequence.parts with
  | [] => .empty ⟨sequence.start, stop⟩
  | [part] => part
  | parts => .sequence ⟨sequence.start, stop⟩ parts.reverse

end Sequence

/-- The choice read so far: where it begins, its finished sequences, the last one first, and the
sequence that is being read. -/
structure Choice where
  start : Place
  finished : List Tree
  current : Sequence

namespace Choice

def begin (start : Place) : Choice := ⟨start, [], ⟨start, []⟩⟩

def push (choice : Choice) (part : Tree) : Choice :=
  { choice with current := choice.current.push part }

/-- Ends a sequence before the bar at one place, and begins the next one behind it. -/
def bar (choice : Choice) (stop start : Place) : Choice :=
  { choice with
    finished := choice.current.tree stop :: choice.finished
    current := ⟨start, []⟩ }

/-- A choice of one sequence is that sequence. -/
def tree (choice : Choice) (stop : Place) : Tree :=
  let last := choice.current.tree stop
  match choice.finished with
  | [] => last
  | finished => .choice ⟨choice.start, stop⟩ (last :: finished).reverse

end Choice

namespace Reader

/-- The largest number that may be written. -/
def largestCount : Nat := Nat.pow 2 32 - 1

/-- Reads the digits of a count, with blanks around them. -/
def countDigits : Reader (List Char × Span) := do
  let _ ← takeWhile Text.isBlank
  let start ← here
  let digits ← takeSpaced Char.isDigit
  let span : Span := ⟨start, ← here⟩
  let _ ← takeSpaced Text.isBlank
  return (digits, span)

def count (digits : List Char) (span : Span) : Reader Nat :=
  let value := digits.foldl (fun value digit => value * 10 + (digit.toNat - 48)) 0
  if digits.isEmpty then fail .countMissing span
  else if largestCount < value then fail .numberTooLarge span
  else return value

/-- The last part of a sequence, which the sign at this place repeats, and the parts before it. -/
def repeated (sequence : Sequence) : Reader (Tree × Sequence) := do
  match sequence.parts with
  | [] => fail .nothingToRepeat (.point (← here))
  | .flags _ _ :: _ => fail .nothingToRepeat (.point (← here))
  | part :: parts => return (part, { sequence with parts := parts })

/-- Whether a repetition is greedy, which it is unless a question mark follows, which is taken. -/
def takeGreed : Reader Bool := return !(← take? ['?'])

def repetition (sequence : Sequence) (least : Nat) (most : Option Nat) : Reader Sequence := do
  let (body, sequence) ← repeated sequence
  next
  let greedy ← takeGreed
  return sequence.push (.repetition ⟨body.span.start, ← here⟩ body least most greedy)

/-- Reads the counts of a repetition behind the opening brace at the given place. -/
def counts (brace : Place) : Reader (Nat × Option Nat) := do
  let (least, leastSpan) ← countDigits
  match ← letter? with
  | none => fail .countUnclosed ⟨brace, ← here⟩
  | some ',' =>
    advance
    match ← letter? with
    | none => fail .countUnclosed ⟨brace, ← here⟩
    | some '\x7d' => return (← count least leastSpan, none)
    | some _ =>
      let low ← count least leastSpan
      let (most, mostSpan) ← countDigits
      return (low, some (← count most mostSpan))
  | some _ =>
    let low ← count least leastSpan
    return (low, some low)

/-- Reads a repetition with counts between braces, from the opening brace on. -/
def countedRepetition (sequence : Sequence) : Reader Sequence := do
  let brace ← here
  let (body, sequence) ← repeated sequence
  advance
  if (← letter?).isNone then fail .countUnclosed ⟨brace, ← here⟩
  else
    let (least, most) ← counts brace
    if (← letter?) = some '\x7d' then
      advance
      let greedy ← takeGreed
      if most.any (· < least) then fail .countReversed ⟨brace, ← here⟩
      else return sequence.push (.repetition ⟨body.span.start, ← here⟩ body least most greedy)
    else fail .countUnclosed ⟨brace, ← here⟩

def single : Reader Tree := do
  let span ← letterSpan
  match ← letter? with
  | some '\\' =>
    match ← escape with
    | .atom inner => return .atom inner
    | .any span => return .any span
    | .assertion span assertion => return .assertion span assertion
  | some '.' =>
    next
    return .any span
  | some '^' =>
    next
    return .assertion span .lineStart
  | some '$' =>
    next
    return .assertion span .lineEnd
  | some letter =>
    next
    return .atom (.letter ⟨letter, false, span⟩)
  | none => return .empty span

/-- Reads a choice up to the end of the pattern, or of the group whose opening parenthesis is given.
The number bounds the length. -/
def choice (opening : Option Span) : Nat → Choice → Reader Tree
  | 0, read => return read.tree (← here)
  | limit + 1, read => do
    skip
    match ← letter? with
    | none =>
      match opening with
      | some span => fail .groupUnclosed span
      | none => return read.tree (← here)
    | some '(' =>
      let start ← here
      match ← groupOpening with
      | .switches span switches =>
        modify fun cursor => { cursor with spaced := switches.apply .spaced cursor.spaced }
        choice opening limit (read.push (.flags span switches))
      | .group captures switches =>
        let spaced := (← get).spaced
        modify fun cursor => { cursor with spaced := switches.apply .spaced spaced }
        let parenthesis := Span.single start '('
        let body ← choice (some parenthesis) limit (.begin (← here))
        modify fun cursor => { cursor with spaced := spaced }
        next
        choice opening limit (read.push (.group ⟨start, ← here⟩ captures switches body))
    | some ')' =>
      match opening with
      | some _ => return read.tree (← here)
      | none => fail .groupUnopened (← letterSpan)
    | some '|' =>
      let stop ← here
      next
      choice opening limit (read.bar stop (← here))
    | some '[' =>
      choice opening limit (read.push (← bracket))
    | some '?' =>
      choice opening limit { read with current := ← repetition read.current 0 (some 1) }
    | some '*' =>
      choice opening limit { read with current := ← repetition read.current 0 none }
    | some '+' =>
      choice opening limit { read with current := ← repetition read.current 1 none }
    | some '\x7b' =>
      choice opening limit { read with current := ← countedRepetition read.current }
    | some _ =>
      choice opening limit (read.push (← single))

end Reader

namespace Tree

/-- The number of parts that may stand in each other. -/
def depthLimit : Nat := 250

mutual

/-- The span of the first part of a bracket that is deeper than allowed. -/
def tooDeepMember? (depth : Nat) : Members → Option Span
  | .bracket span _ members =>
    if depthLimit ≤ depth then some span else tooDeepMember? (depth + 1) members
  | .union span parts =>
    if depthLimit ≤ depth then some span else tooDeepMembers? (depth + 1) parts
  | .combination span _ left right =>
    if depthLimit ≤ depth then some span
    else (tooDeepMember? (depth + 1) left).or (tooDeepMember? (depth + 1) right)
  | _ => none

def tooDeepMembers? (depth : Nat) : List Members → Option Span
  | [] => none
  | part :: parts => (tooDeepMember? depth part).or (tooDeepMembers? depth parts)

end

mutual

/-- The span of the first part of a tree that is deeper than allowed. -/
def tooDeep? (depth : Nat) : Tree → Option Span
  | .bracket span _ members =>
    if depthLimit ≤ depth then some span else tooDeepMember? (depth + 1) members
  | .repetition span body _ _ _ =>
    if depthLimit ≤ depth then some span else tooDeep? (depth + 1) body
  | .group span _ _ body =>
    if depthLimit ≤ depth then some span else tooDeep? (depth + 1) body
  | .sequence span parts =>
    if depthLimit ≤ depth then some span else tooDeepPart? (depth + 1) parts
  | .choice span parts =>
    if depthLimit ≤ depth then some span else tooDeepPart? (depth + 1) parts
  | _ => none

def tooDeepPart? (depth : Nat) : List Tree → Option Span
  | [] => none
  | part :: parts => (tooDeep? depth part).or (tooDeepPart? depth parts)

end

def parse (pattern : List Char) : Except Fault Tree := do
  let (tree, _) ← Reader.choice none (pattern.length + 1) (.begin .first) (.ofPattern pattern)
  match tree.tooDeep? 0 with
  | some span => .error ⟨.tooDeep depthLimit, span, none⟩
  | none => .ok tree

end Tree

end UnityBuild.Pattern
