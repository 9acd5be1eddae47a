import UnityBuild.Pattern.Fault
import UnityBuild.Text.Blank

/-!
# Reading patterns

A reader takes characters from the front of what is left of a pattern, or ends with a fault. In
spaced patterns blanks and comments may stand between characters; a comment reaches from a number
sign to the end of its line.
-/

namespace UnityBuild.Pattern

/-- What is left of a pattern, and where it begins. -/
structure Cursor where
  rest : List Char
  place : Place
  /-- Whether blanks and comments are skipped. -/
  spaced : Bool
  /-- The names of groups so far. -/
  names : List (List Char × Span)
  deriving DecidableEq, Repr

namespace Cursor

def ofPattern (pattern : List Char) : Cursor := ⟨pattern, .first, false, []⟩

def next (cursor : Cursor) : Cursor :=
  match cursor.rest with
  | [] => cursor
  | letter :: rest => { cursor with rest := rest, place := cursor.place.after letter }

/-- What is left behind blanks and comments. A comment may be open at the beginning. -/
def pastBlanks (place : Place) : Bool → List Char → List Char × Place
  | _, [] => ([], place)
  | true, letter :: rest => pastBlanks (place.after letter) (letter != '\n') rest
  | false, letter :: rest =>
    if letter = '#' then pastBlanks (place.after letter) true rest
    else if Text.isBlank letter then pastBlanks (place.after letter) false rest
    else (letter :: rest, place)

def skip (cursor : Cursor) : Cursor :=
  if cursor.spaced then
    let (rest, place) := pastBlanks cursor.place false cursor.rest
    { cursor with rest := rest, place := place }
  else cursor

/-- Takes the next character, and the blanks and comments behind it. -/
def advance (cursor : Cursor) : Cursor := cursor.next.skip

/-- The characters from the front that pass a test, each taken by `step`, but not more than some
number. -/
def gather (step : Cursor → Cursor) (wanted : Char → Bool) : Nat → Cursor → List Char × Cursor
  | 0, cursor => ([], cursor)
  | count + 1, cursor =>
    match cursor.rest with
    | [] => ([], cursor)
    | letter :: _ =>
      if wanted letter then
        let (letters, after) := gather step wanted count (step cursor)
        (letter :: letters, after)
      else ([], cursor)

/-- The character behind the next one and behind blanks and a first number sign after it. If nothing
else is left it is the character right behind the next one. -/
def peek (cursor : Cursor) : Option Char :=
  match cursor.rest with
  | [] => none
  | _ :: rest =>
    if cursor.spaced then
      let rest' := rest.dropWhile Text.isBlank
      let found := match rest' with
        | '#' :: comment => comment.dropWhile Text.isBlank
        | _ => rest'
      (found.head?).or rest.head?
    else rest.head?

end Cursor

abbrev Reader := StateT Cursor (Except Fault)

namespace Reader

def fail {α : Type} (mistake : Mistake) (span : Span) : Reader α :=
  fun _ => .error ⟨mistake, span, none⟩

/-- A mistake that repeats what stands at an earlier span. -/
def failAgain {α : Type} (mistake : Mistake) (span earlier : Span) : Reader α :=
  fun _ => .error ⟨mistake, span, some earlier⟩

def here : Reader Place := return (← get).place

def letter? : Reader (Option Char) := return (← get).rest.head?

/-- The span of the next character, or the place at the end of the pattern. -/
def letterSpan : Reader Span := do
  let cursor ← get
  match cursor.rest with
  | [] => return .point cursor.place
  | letter :: _ => return .single cursor.place letter

def next : Reader Unit := modify Cursor.next

def skip : Reader Unit := modify Cursor.skip

def advance : Reader Unit := modify Cursor.advance

/-- Takes the characters from the front that pass a test. -/
def takeWhile (wanted : Char → Bool) : Reader (List Char) := fun cursor =>
  .ok (cursor.gather Cursor.next wanted cursor.rest.length)

/-- Takes the characters from the front that pass a test, with what may stand between them. -/
def takeSpaced (wanted : Char → Bool) : Reader (List Char) := fun cursor =>
  .ok (cursor.gather Cursor.advance wanted cursor.rest.length)

def take? (letters : List Char) : Reader Bool := fun cursor =>
  if letters.isPrefixOf cursor.rest then
    .ok (true, letters.foldl (fun cursor _ => cursor.next) cursor)
  else .ok (false, cursor)

end Reader

end UnityBuild.Pattern
