import UnityBuild.Json.Literal

/-!
# Skipped values

A value that nobody wants is read over without being built. Lists and objects may be nested to any
depth: the brackets that are open wait on a stack. Numbers are checked for their form only.
-/

namespace UnityBuild.Json

/-- An open bracket. -/
inductive Bracket where
  | list
  | object
  deriving DecidableEq, Repr

namespace Bracket

def closing : Bracket → UInt8
  | list => 0x5D
  | object => 0x7D

/-- The text ends where the bracket should be closed. -/
def ending : Bracket → Fault
  | list => .endInList
  | object => .endInObject

/-- Neither a comma nor the closing bracket follows an element. -/
def unclosed : Bracket → Fault
  | list => .expectedListEnd
  | object => .expectedObjectEnd

end Bracket

def skipExponent (cursor : Cursor) : Except Refusal Cursor :=
  let cursor := if cursor.rest.head?.any (fun byte => byte == 0x2B || byte == 0x2D)
    then cursor.skip 1 else cursor
  match cursor.rest with
  | [] => .error (cursor.here .invalidNumber)
  | byte :: _ =>
    if Cursor.isDigit byte then .ok (cursor.skip 1).skipDigits
    else .error ((cursor.skip 1).here .invalidNumber)

def skipExponent? (cursor : Cursor) : Except Refusal Cursor :=
  if cursor.rest.head?.any (fun byte => byte == 0x65 || byte == 0x45) then
    skipExponent (cursor.skip 1)
  else .ok cursor

/-- Reads over the digits behind a point that was read. -/
def skipFraction (cursor : Cursor) : Except Refusal Cursor :=
  let after := cursor.skipDigits
  if after.consumed = cursor.consumed then .error (cursor.peek .invalidNumber)
  else skipExponent? after

def skipScale (cursor : Cursor) : Except Refusal Cursor :=
  if cursor.rest.head? == some 0x2E then skipFraction (cursor.skip 1) else skipExponent? cursor

/-- Reads over a number whose sign was read already. -/
def skipUnsigned (cursor : Cursor) : Except Refusal Cursor :=
  match cursor.rest with
  | [] => .error (cursor.here .invalidNumber)
  | byte :: rest =>
    let after := cursor.skip 1
    if byte = 0x30 then
      if rest.head?.any Cursor.isDigit then .error (after.peek .invalidNumber) else skipScale after
    else if Cursor.isDigit byte then skipScale after.skipDigits
    else .error (after.here .invalidNumber)

/-- Reads over a word, a number or a text, if the next byte begins one. -/
def skipPlain? (cursor : Cursor) : Option (Except Refusal Cursor) :=
  match cursor.rest with
  | [] => none
  | byte :: _ =>
    let after := cursor.skip 1
    if byte = 0x6E then some (readWord after [0x75, 0x6C, 0x6C])
    else if byte = 0x74 then some (readWord after [0x72, 0x75, 0x65])
    else if byte = 0x66 then some (readWord after [0x61, 0x6C, 0x73, 0x65])
    else if byte = 0x2D then some (skipUnsigned after)
    else if Cursor.isDigit byte then some (skipUnsigned cursor)
    else if byte = 0x22 then some (skipText after)
    else none

def opened? (byte : UInt8) : Option Bracket :=
  if byte = 0x5B then some .list else if byte = 0x7B then some .object else none

/-- Reads over the name of a member and the colon behind it. -/
def skipName (cursor : Cursor) : Except Refusal Cursor := do
  let start := cursor.skipBlank
  match start.rest with
  | [] => .error (start.peek .endInObject)
  | byte :: _ =>
    if byte ≠ 0x22 then .error (start.peek .keyIsNoText)
    else
      let colon := (← skipText (start.skip 1)).skipBlank
      match colon.rest with
      | [] => .error (colon.peek .endInObject)
      | byte :: _ =>
        if byte = 0x3A then .ok (colon.skip 1) else .error (colon.peek .expectedColon)

/-- Reads over what comes before the value of an element: the name of a member, nothing in a list.
-/
def skipLabel (bracket : Bracket) (cursor : Cursor) : Except Refusal Cursor :=
  match bracket with
  | .list => .ok cursor
  | .object => skipName cursor

theorem length_readWord {cursor after : Cursor} {word : Bytes}
    (h : readWord cursor word = .ok after) : after.rest.length ≤ cursor.rest.length := by
  fun_induction readWord cursor word with
  | case1 => cases h; exact Nat.le_refl _
  | case2 => cases h
  | case3 _ _ _ _ _ ih => exact Nat.le_trans (ih h) (by simp)
  | case4 => cases h

theorem length_skipExponent {cursor after : Cursor} (h : skipExponent cursor = .ok after) :
    after.rest.length ≤ cursor.rest.length := by
  unfold skipExponent at h
  simp only at h
  generalize hs : (if cursor.rest.head?.any (fun byte => byte == 0x2B || byte == 0x2D)
    then cursor.skip 1 else cursor) = start at h
  have hstart : start.rest.length ≤ cursor.rest.length := by
    subst hs; split <;> simp
  split at h
  · cases h
  · split at h
    · cases h
      exact Nat.le_trans (Cursor.length_skipDigits _) (Nat.le_trans (by simp) hstart)
    · cases h

theorem length_skipExponent? {cursor after : Cursor} (h : skipExponent? cursor = .ok after) :
    after.rest.length ≤ cursor.rest.length := by
  unfold skipExponent? at h
  split at h
  · exact Nat.le_trans (length_skipExponent h) (by simp)
  · cases h; exact Nat.le_refl _

theorem length_skipScale {cursor after : Cursor} (h : skipScale cursor = .ok after) :
    after.rest.length ≤ cursor.rest.length := by
  unfold skipScale skipFraction at h
  split at h
  · dsimp only at h
    split at h
    · cases h
    · exact Nat.le_trans (length_skipExponent? h)
        (Nat.le_trans (Cursor.length_skipDigits _) (by simp))
  · exact length_skipExponent? h

theorem ahead_skipUnsigned {cursor after : Cursor} (h : skipUnsigned cursor = .ok after) :
    after.Ahead cursor := by
  unfold skipUnsigned at h
  unfold Cursor.Ahead
  split at h
  · cases h
  · rename_i byte rest hrest
    have hskip : (cursor.skip 1).rest.length < cursor.rest.length := by simp [hrest]
    dsimp only at h
    split at h
    · split at h
      · cases h
      · exact Nat.lt_of_le_of_lt (length_skipScale h) hskip
    · split at h
      · exact Nat.lt_of_le_of_lt (length_skipScale h)
          (Nat.lt_of_le_of_lt (Cursor.length_skipDigits _) hskip)
      · cases h

theorem ahead_skipPlain? {cursor after : Cursor} (h : skipPlain? cursor = some (.ok after)) :
    after.Ahead cursor := by
  unfold skipPlain? at h
  unfold Cursor.Ahead
  split at h
  · cases h
  · rename_i byte rest hrest
    have hskip : (cursor.skip 1).rest.length < cursor.rest.length := by simp [hrest]
    dsimp only at h
    repeat' split at h
    · exact Nat.lt_of_le_of_lt (length_readWord (Option.some.inj h)) hskip
    · exact Nat.lt_of_le_of_lt (length_readWord (Option.some.inj h)) hskip
    · exact Nat.lt_of_le_of_lt (length_readWord (Option.some.inj h)) hskip
    · exact Nat.lt_trans (ahead_skipUnsigned (Option.some.inj h)) hskip
    · exact ahead_skipUnsigned (Option.some.inj h)
    · exact Nat.lt_trans (ahead_skipText (Option.some.inj h)) hskip
    · cases h

theorem length_skipName {cursor after : Cursor} (h : skipName cursor = .ok after) :
    after.rest.length ≤ cursor.rest.length := by
  have hblank := Cursor.length_skipBlank cursor
  unfold skipName at h
  dsimp only at h
  split at h
  · cases h
  · split at h
    · cases h
    · obtain ⟨text, htext, h⟩ := exists_of_bind_eq_ok h
      have := ahead_skipText htext
      have hcolon := Cursor.length_skipBlank text
      simp only [Cursor.Ahead, Cursor.length_skip] at this
      split at h
      · cases h
      · split at h
        · cases h
          simp only [Cursor.length_skip]
          omega
        · cases h

theorem length_skipLabel {bracket : Bracket} {cursor after : Cursor}
    (h : skipLabel bracket cursor = .ok after) : after.rest.length ≤ cursor.rest.length := by
  cases bracket with
  | list => cases h; exact Nat.le_refl _
  | object => exact length_skipName h

mutual

/-- Reads over a value, and then to the end of all open brackets. -/
def skipValue (stack : List Bracket) (cursor : Cursor) : Except Refusal Cursor :=
  let start := cursor.skipBlank
  match _hrest : start.rest with
  | [] => .error (start.peek .endInValue)
  | byte :: _ =>
    match opened? byte with
    | some bracket => skipElements false (bracket :: stack) (start.skip 1)
    | none =>
      match _h : skipPlain? start with
      | some (.ok after) => skipElements true stack after
      | some (.error refusal) => .error refusal
      | none => .error (start.peek .expectedValue)
termination_by (cursor.rest.length, 0)
decreasing_by
  · have := Cursor.length_skipBlank cursor
    have hlength : cursor.skipBlank.rest.length = _ := congrArg List.length _hrest
    apply Prod.Lex.left
    simp only [List.length_cons] at hlength
    show (cursor.skipBlank.skip 1).rest.length < cursor.rest.length
    simp only [Cursor.length_skip]
    omega
  · have := Cursor.length_skipBlank cursor
    have hahead := ahead_skipPlain? _h
    apply Prod.Lex.left
    exact Nat.lt_of_lt_of_le hahead this

/-- Reads over what is left in the open brackets. A comma is accepted behind an element only. -/
def skipElements (comma : Bool) (stack : List Bracket) (cursor : Cursor) :
    Except Refusal Cursor :=
  match stack with
  | [] => .ok cursor
  | bracket :: outer =>
    let start := cursor.skipBlank
    match _hrest : start.rest with
    | [] => .error (start.peek bracket.ending)
    | byte :: _ =>
      if byte = bracket.closing then skipElements true outer (start.skip 1)
      else if comma && byte != 0x2C then .error (start.peek bracket.unclosed)
      else
        match _h : skipLabel bracket (if comma then start.skip 1 else start) with
        | .ok after => skipValue (bracket :: outer) after
        | .error refusal => .error refusal
termination_by (cursor.rest.length, 1)
decreasing_by
  · have := Cursor.length_skipBlank cursor
    have hlength : cursor.skipBlank.rest.length = _ := congrArg List.length _hrest
    apply Prod.Lex.left
    simp only [List.length_cons] at hlength
    show (cursor.skipBlank.skip 1).rest.length < cursor.rest.length
    simp only [Cursor.length_skip]
    omega
  · have hblank := Cursor.length_skipBlank cursor
    have hlabel := length_skipLabel _h
    have hnext : after.rest.length ≤ cursor.rest.length := by
      refine Nat.le_trans hlabel (Nat.le_trans ?_ hblank)
      split
      · simp [start]
      · exact Nat.le_refl _
    rcases Nat.lt_or_eq_of_le hnext with hlt | heq
    · exact Prod.Lex.left _ _ hlt
    · rw [heq]
      exact Prod.Lex.right _ Nat.zero_lt_one

end

/-- Both skipping readers move forward, by induction on a bound for what is left of the text. -/
theorem length_skip_le (bound : Nat) :
    (∀ {stack : List Bracket} {cursor after : Cursor}, cursor.rest.length < bound →
      skipValue stack cursor = .ok after → after.rest.length ≤ cursor.rest.length) ∧
    (∀ {comma : Bool} {stack : List Bracket} {cursor after : Cursor}, cursor.rest.length < bound →
      skipElements comma stack cursor = .ok after →
      after.rest.length ≤ cursor.rest.length) := by
  induction bound with
  | zero => exact ⟨fun h => absurd h (Nat.not_lt_zero _), fun h => absurd h (Nat.not_lt_zero _)⟩
  | succ bound ih =>
    have value : ∀ {stack : List Bracket} {cursor after : Cursor},
        cursor.rest.length < bound + 1 → skipValue stack cursor = .ok after →
        after.rest.length ≤ cursor.rest.length := by
      intro stack cursor after hbound h
      have hblank := Cursor.length_skipBlank cursor
      rw [skipValue] at h
      split at h
      · cases h
      · rename_i byte rest hrest
        have hlength := congrArg List.length hrest
        simp only [List.length_cons] at hlength
        split at h
        · have := ih.2 (by simp only [Cursor.length_skip]; omega) h
          simp only [Cursor.length_skip] at this
          omega
        · split at h
          · rename_i next hplain
            have hnext := ahead_skipPlain? hplain
            simp only [Cursor.Ahead] at hnext
            have := ih.2 (by omega) h
            omega
          · cases h
          · cases h
    refine ⟨value, ?_⟩
    intro comma stack cursor after hbound h
    have hblank := Cursor.length_skipBlank cursor
    rw [skipElements.eq_def] at h
    split at h
    · cases h; exact Nat.le_refl _
    · dsimp only at h
      split at h
      · cases h
      · rename_i byte rest hrest
        have hlength := congrArg List.length hrest
        simp only [List.length_cons] at hlength
        split at h
        · have := ih.2 (by simp only [Cursor.length_skip]; omega) h
          simp only [Cursor.length_skip] at this
          omega
        · split at h
          · cases h
          · split at h
            · rename_i next hlabel
              have hnext : next.rest.length ≤ cursor.rest.length := by
                refine Nat.le_trans (length_skipLabel hlabel) (Nat.le_trans ?_ hblank)
                split
                · simp
                · exact Nat.le_refl _
              exact Nat.le_trans (value (by omega) h) hnext
            · cases h

theorem length_skipValue {stack : List Bracket} {cursor after : Cursor}
    (h : skipValue stack cursor = .ok after) : after.rest.length ≤ cursor.rest.length :=
  (length_skip_le (cursor.rest.length + 1)).1 (Nat.lt_succ_self _) h

end UnityBuild.Json
