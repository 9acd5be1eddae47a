import UnityBuild.Json.Number
import UnityBuild.Json.Skip

/-!
# Elements of lists and objects

What stands between the values of a database: brackets, commas, the names of members. A value of a
kind that was not wanted is read, so that the fault can name it; of a list or an object, only the
bracket is looked at.

When an entry is refused for what it says, its bracket is still closed if that is what comes next.
The fault then lies behind the bracket, and otherwise behind the blanks before it.
-/

namespace UnityBuild.Json

/-- Refuses a value of another kind than was wanted. The cursor stands at its first byte. -/
def refuseKind (cursor : Cursor) (wanted : Wanted) : Refusal :=
  let refused (found : Found) (read : Except Refusal Cursor) : Refusal :=
    match read with
    | .ok after => after.here (.wrongKind found wanted)
    | .error refusal => refusal
  match cursor.rest with
  | [] => cursor.peek .endInValue
  | byte :: _ =>
    let after := cursor.skip 1
    if byte = 0x6E then refused .null (readWord after [0x75, 0x6C, 0x6C])
    else if byte = 0x74 then refused (.boolean true) (readWord after [0x72, 0x75, 0x65])
    else if byte = 0x66 then refused (.boolean false) (readWord after [0x61, 0x6C, 0x73, 0x65])
    else if byte = 0x2D || Cursor.isDigit byte then
      match readNumber cursor with
      | .ok (found, after) => after.here (.wrongKind found wanted)
      | .error refusal => refusal
    else if byte = 0x22 then
      match readText after with
      | .ok (text, after) => after.here (.wrongKind (.text text) wanted)
      | .error refusal => refusal
    else if byte = 0x5B then cursor.here (.wrongKind .sequence wanted)
    else if byte = 0x7B then cursor.here (.wrongKind .map wanted)
    else cursor.peek .expectedValue

def readString (cursor : Cursor) : Except Refusal (String × Cursor) :=
  let start := cursor.skipBlank
  if start.rest.head? == some 0x22 then readText (start.skip 1)
  else .error (refuseKind start .text)

/-- Goes to the next element of a list, or to its closing bracket. -/
def nextElement (first : Bool) (cursor : Cursor) : Except Refusal (Bool × Cursor) :=
  let start := cursor.skipBlank
  match start.rest with
  | [] => .error (start.peek .endInList)
  | byte :: _ =>
    if byte = 0x5D then .ok (false, start)
    else if first then .ok (true, start)
    else if byte = 0x2C then
      let next := (start.skip 1).skipBlank
      match next.rest with
      | [] => .error (next.peek .endInValue)
      | byte :: _ =>
        if byte = 0x5D then .error (next.peek .trailingComma) else .ok (true, next)
    else .error (start.peek .expectedListEnd)

/-- Goes behind the opening quote of the next name of an object, or to its closing bracket. -/
def nextName (first : Bool) (cursor : Cursor) : Except Refusal (Bool × Cursor) :=
  let start := cursor.skipBlank
  match start.rest with
  | [] => .error (start.peek .endInObject)
  | byte :: _ =>
    if byte = 0x7D then .ok (false, start)
    else if first then
      if byte = 0x22 then .ok (true, start.skip 1) else .error (start.peek .keyIsNoText)
    else if byte = 0x2C then
      let next := (start.skip 1).skipBlank
      match next.rest with
      | [] => .error (next.peek .endInValue)
      | byte :: _ =>
        if byte = 0x22 then .ok (true, next.skip 1)
        else if byte = 0x7D then .error (next.peek .trailingComma)
        else .error (next.peek .keyIsNoText)
    else .error (start.peek .expectedObjectEnd)

def readColon (cursor : Cursor) : Except Refusal Cursor :=
  let start := cursor.skipBlank
  match start.rest with
  | [] => .error (start.peek .endInObject)
  | byte :: _ => if byte = 0x3A then .ok (start.skip 1) else .error (start.peek .expectedColon)

/-- Reads the closing bracket of a list that has its full number of elements. -/
def endList (cursor : Cursor) : Except Refusal Cursor :=
  let start := cursor.skipBlank
  match start.rest with
  | [] => .error (start.peek .endInList)
  | byte :: _ =>
    if byte = 0x5D then .ok (start.skip 1)
    else if byte = 0x2C then
      let next := (start.skip 1).skipBlank
      .error (next.peek
        (if next.rest.head? == some 0x5D then .trailingComma else .trailingCharacters))
    else .error (start.peek .trailingCharacters)

def closeIf (bracket : Bracket) (cursor : Cursor) : Cursor :=
  let start := cursor.skipBlank
  if start.rest.head? == some bracket.closing then start.skip 1 else start

theorem ahead_readString {cursor after : Cursor} {text : String}
    (h : readString cursor = .ok (text, after)) : after.Ahead cursor := by
  unfold readString at h
  dsimp only at h
  split at h
  · have htext := ahead_readText h
    have := Cursor.length_skipBlank cursor
    simp only [Cursor.Ahead, Cursor.length_skip] at htext ⊢
    omega
  · cases h

theorem length_nextElement {first found : Bool} {cursor after : Cursor}
    (h : nextElement first cursor = .ok (found, after)) :
    after.rest.length ≤ cursor.rest.length := by
  have hblank := Cursor.length_skipBlank cursor
  have hcomma := Cursor.length_skipBlank (cursor.skipBlank.skip 1)
  simp only [Cursor.length_skip] at hcomma
  unfold nextElement at h
  dsimp only at h
  repeat' split at h
  all_goals first
    | (cases h; done)
    | (simp only [Except.ok.injEq, Prod.mk.injEq] at h
       obtain ⟨_, rfl⟩ := h
       omega)

theorem length_nextName {first found : Bool} {cursor after : Cursor}
    (h : nextName first cursor = .ok (found, after)) :
    after.rest.length ≤ cursor.rest.length := by
  have hblank := Cursor.length_skipBlank cursor
  have hcomma := Cursor.length_skipBlank (cursor.skipBlank.skip 1)
  simp only [Cursor.length_skip] at hcomma
  unfold nextName at h
  dsimp only at h
  repeat' split at h
  all_goals first
    | (cases h; done)
    | (simp only [Except.ok.injEq, Prod.mk.injEq] at h
       obtain ⟨_, rfl⟩ := h
       simp only [Cursor.length_skip]
       omega)
    | (simp only [Except.ok.injEq, Prod.mk.injEq] at h
       obtain ⟨_, rfl⟩ := h
       omega)

theorem length_readColon {cursor after : Cursor} (h : readColon cursor = .ok after) :
    after.rest.length ≤ cursor.rest.length := by
  have hblank := Cursor.length_skipBlank cursor
  unfold readColon at h
  dsimp only at h
  repeat' split at h
  · cases h
  · cases h
    simp only [Cursor.length_skip]
    omega
  · cases h

end UnityBuild.Json
