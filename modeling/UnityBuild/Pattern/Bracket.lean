import UnityBuild.Pattern.Escape

/-!
# Brackets

A bracket lists characters, ranges, families and further brackets. Lists may be combined by
doubled signs, from left to right. A closing bracket in front stands for itself, and so do hyphens
that are in front or before the closing bracket.
-/

namespace UnityBuild.Pattern

def AsciiFamily.ofName? (name : List Char) : Option AsciiFamily :=
  [("alnum", AsciiFamily.alnum), ("alpha", .alpha), ("ascii", .ascii), ("blank", .blank),
    ("cntrl", .cntrl), ("digit", .digit), ("graph", .graph), ("lower", .lower),
    ("print", .print), ("punct", .punct), ("space", .space), ("upper", .upper), ("word", .word),
    ("xdigit", .xdigit)].findSome? fun (known, family) =>
      if known.toList = name then some family else none

/-- The parts of a list so far, the last one first, and the place where the list begins. -/
structure Gathered where
  start : Place
  parts : List Members

namespace Gathered

def push (gathered : Gathered) (part : Members) : Gathered :=
  { gathered with parts := part :: gathered.parts }

/-- A list of one part is that part. A longer one reaches from its first to its last part. -/
def members (gathered : Gathered) : Members :=
  match gathered.parts with
  | [] => .empty (.point gathered.start)
  | [part] => part
  | last :: more =>
    let parts := (last :: more).reverse
    .union ⟨(parts.head?.map (·.span.start)).getD gathered.start, last.span.stop⟩ parts

end Gathered

/-- A list that an operator combines with the next one. -/
structure Pending where
  left : Members
  operator : Operator

namespace Pending

/-- The combination with the list behind the operator. -/
def complete (pending : Option Pending) (right : Members) : Members :=
  match pending with
  | none => right
  | some ⟨left, operator⟩ =>
    .combination ⟨left.span.start, right.span.stop⟩ operator left right

end Pending

namespace Reader

def piece : Reader Piece := do
  match ← letter? with
  | some '\\' => escape
  | some letter =>
    let span ← letterSpan
    next
    return .atom (.letter ⟨letter, false, span⟩)
  | none => return .any (.point (← here))

def member : Piece → Reader Members
  | .atom inner => return .atom inner
  | other => fail .assertionInBracket other.span

/-- What may begin or end a range. -/
def boundary : Piece → Reader Letter
  | .atom (.letter character) => return character
  | other => fail .rangeEndNoCharacter other.span

/-- Reads one part of a list, or a range. The span is that of the opening bracket, which stays
unclosed if the pattern ends here. -/
def memberOrRange (opening : Span) : Reader Members := do
  let first ← piece
  skip
  match ← letter? with
  | none => fail .bracketUnclosed opening
  | some letter =>
    let behind := (← get).peek
    if letter != '-' || behind == some ']' || behind == some '-' then member first
    else
      advance
      if (← letter?).isNone then fail .bracketUnclosed opening
      else
        let last ← piece
        let low ← boundary first
        let high ← boundary last
        let span : Span := ⟨low.span.start, high.span.stop⟩
        if low.char ≤ high.char then return .range span low high else fail .rangeReversed span

/-- Reads a named family like `[:alpha:]`. Anything else is left as it is. -/
def asciiFamily : Reader (Option Members) := do
  let before ← get
  let start ← here
  let opened ← take? ['[', ':']
  let negated ← if opened then take? ['^'] else pure false
  let name ← takeWhile (· != ':')
  let closed ← take? [':', ']']
  match opened && closed, AsciiFamily.ofName? name with
  | true, some family => return some (.ascii ⟨start, ← here⟩ family negated)
  | _, _ =>
    set before
    return none

def operator? : List Char → Option Operator
  | '&' :: '&' :: _ => some .intersection
  | '-' :: '-' :: _ => some .difference
  | '~' :: '~' :: _ => some .symmetricDifference
  | _ => none

/-- Takes the hyphens in front of a list, but not more than some number. -/
def hyphens (start : Place) : Nat → Gathered → Reader Gathered
  | 0, gathered => return gathered
  | count + 1, gathered => do
    if (← letter?) = some '-' then
      let part := Members.atom (.letter ⟨'-', false, ← letterSpan⟩)
      advance
      if (← letter?).isNone then fail .bracketUnclosed (.point start)
      else hyphens start count (gathered.push part)
    else return gathered

/-- Reads the opening of a bracket: its span, whether it is negated, and what stands in front of its
list. -/
def opening : Reader (Span × Bool × Gathered) := do
  let start ← here
  advance
  let negated := (← letter?) = some '^'
  if negated then advance
  if (← letter?).isNone then fail .bracketUnclosed ⟨start, ← here⟩
  else
    let gathered ← hyphens start (← get).rest.length ⟨← here, []⟩
    if gathered.parts.isEmpty && (← letter?) == some ']' then
      let part := Members.atom (.letter ⟨']', false, ← letterSpan⟩)
      advance
      if (← letter?).isNone then fail .bracketUnclosed ⟨start, ← here⟩
      else return (⟨start, ← here⟩, negated, gathered.push part)
    else return (⟨start, ← here⟩, negated, gathered)

/-- Reads the rest of a list, up to the closing bracket. The number bounds the length. -/
def list (outer : Span) : Nat → Option Pending → Gathered → Reader Members
  | 0, _, _ => fail .bracketUnclosed outer
  | count + 1, pending, gathered => do
    skip
    match ← letter? with
    | none => fail .bracketUnclosed outer
    | some ']' => return Pending.complete pending gathered.members
    | some '[' =>
      match ← asciiFamily with
      | some part => list outer count pending (gathered.push part)
      | none =>
        let (span, negated, inner) ← opening
        let members ← list span count none inner
        next
        let part := Members.bracket ⟨span.start, ← here⟩ negated members
        list outer count pending (gathered.push part)
    | some _ =>
      match operator? (← get).rest with
      | some operator =>
        let left := Pending.complete pending gathered.members
        next
        next
        list outer count (some ⟨left, operator⟩) ⟨← here, []⟩
      | none =>
        let part ← memberOrRange outer
        list outer count pending (gathered.push part)

/-- Reads a bracket, from the opening to the closing one. -/
def bracket : Reader Tree := do
  let (span, negated, gathered) ← opening
  let members ← list span (← get).rest.length none gathered
  next
  return .bracket ⟨span.start, ← here⟩ negated members

end Reader

end UnityBuild.Pattern
