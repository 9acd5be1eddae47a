import UnityBuild.Proofs.Json.Number
import UnityBuild.Proofs.Json.Text

/-!
# Skipping values

A value that nobody wants is skipped without recursion: the brackets that are open wait on a stack.
What the reader still demands of the text is told by the stack as well: for each bracket the
elements that are left, and its closing byte. So the reader is followed step by step, while the
grammar says with each step how the parts that were read make up the value around them.
-/

namespace UnityBuild.Json

/-! ## The skipping readers, without the evidence that they end -/

theorem skipValue_eq (stack : List Bracket) (cursor : Cursor) :
    skipValue stack cursor =
      match cursor.skipBlank.rest with
      | [] => .error (cursor.skipBlank.peek .endInValue)
      | byte :: _ =>
        match opened? byte with
        | some bracket => skipElements false (bracket :: stack) (cursor.skipBlank.skip 1)
        | none =>
          match skipPlain? cursor.skipBlank with
          | some (.ok after) => skipElements true stack after
          | some (.error refusal) => .error refusal
          | none => .error (cursor.skipBlank.peek .expectedValue) := by
  rw [skipValue]
  split
  · rename_i front
    simp only [front]
  · rename_i byte rest front
    simp only [front]
    cases opened? byte with
    | some bracket => rfl
    | none =>
      dsimp only
      split <;> (rename_i plain; simp only [plain])

theorem skipElements_nil (comma : Bool) (cursor : Cursor) :
    skipElements comma [] cursor = .ok cursor := by
  rw [skipElements]

theorem skipElements_cons (comma : Bool) (bracket : Bracket) (outer : List Bracket)
    (cursor : Cursor) :
    skipElements comma (bracket :: outer) cursor =
      match cursor.skipBlank.rest with
      | [] => .error (cursor.skipBlank.peek bracket.ending)
      | byte :: _ =>
        if byte = bracket.closing then skipElements true outer (cursor.skipBlank.skip 1)
        else if comma && byte != 0x2C then .error (cursor.skipBlank.peek bracket.unclosed)
        else
          match skipLabel bracket (if comma then cursor.skipBlank.skip 1 else cursor.skipBlank) with
          | .ok after => skipValue (bracket :: outer) after
          | .error refusal => .error refusal := by
  rw [skipElements]
  split
  · rename_i front
    simp only [front]
  · rename_i front
    simp only [front]
    split
    · rfl
    · split
      · rfl
      · split <;> (rename_i label; simp only [label])

/-! ## Words, names and single values -/

theorem covers_readWord (word : Bytes) : Covers (readWord · word) (· = word) := by
  intro cursor stop h
  refine ⟨word, rfl, ?_⟩
  dsimp only at h
  fun_induction readWord cursor word with
  | case1 => cases h; rfl
  | case2 => cases h
  | case3 cursor wanted more rest front ih =>
    have behind := ih h
    rw [Cursor.rest_skip_one front] at behind
    rw [front, behind, List.cons_append]
  | case4 => cases h

theorem passes_readWord (word rest : Bytes) : Passes (readWord · word) (word ++ rest) rest := by
  induction word with
  | nil => exact fun cursor front => ⟨cursor, rfl, front⟩
  | cons byte more ih =>
    intro cursor front
    obtain ⟨stop, success, left⟩ := ih (cursor.skip 1) (by simp [front])
    refine ⟨stop, ?_, left⟩
    dsimp only at success ⊢
    rw [readWord, front]
    simpa using success

theorem covers_skipLabel (bracket : Bracket) :
    Covers (skipLabel bracket) fun text =>
      ∃ blanks name, Blank blanks ∧ Label Passable bracket name ∧ text = blanks ++ name := by
  intro cursor stop h
  cases bracket with
  | list =>
    cases h
    exact ⟨[], ⟨[], [], blank_nil, .none, rfl⟩, rfl⟩
  | object =>
    rw [skipLabel, skipName] at h
    obtain ⟨blanks, blank, front⟩ := cursor.exists_skipBlank
    split at h
    · cases h
    · rename_i byte rest quote
      split at h
      · cases h
      · rename_i same
        obtain ⟨after, skipped, h⟩ := exists_of_bind_eq_ok h
        obtain ⟨_, ⟨body, passable, rfl⟩, behind⟩ := covers_skipText skipped
        obtain ⟨blanks', blank', front'⟩ := after.exists_skipBlank
        dsimp only at h
        split at h
        · cases h
        · rename_i byte' rest' colon
          split at h
          · rename_i same'
            cases h
            rw [Cursor.rest_skip_one quote] at behind
            refine ⟨_, ⟨blanks, _, blank, .name passable blank', rfl⟩, ?_⟩
            rw [front, quote, Decidable.not_not.mp same, behind, front', colon, same']
            simp [colon]
          · cases h

theorem passes_skipLabel {bracket : Bracket} {name blanks rest : Bytes}
    (label : Label Passable bracket name) (blank : Blank blanks) {cursor : Cursor}
    (front : cursor.rest = blanks ++ (name ++ rest)) :
    ∃ stop blanks', skipLabel bracket cursor = .ok stop ∧ Blank blanks' ∧
      stop.rest = blanks' ++ rest := by
  cases label with
  | none => exact ⟨cursor, blanks, rfl, blank, front⟩
  | @name body more passable blank' =>
    have quote : cursor.skipBlank.rest = 0x22 :: (body ++ 0x22 :: (more ++ 0x3A :: rest)) :=
      Cursor.rest_skipBlank (by simpa using front) blank (by decide)
    obtain ⟨after, skipped, behind⟩ :=
      passes_skipText passable (more ++ 0x3A :: rest) (cursor.skipBlank.skip 1) (by simp [quote])
    have colon : after.skipBlank.rest = 0x3A :: rest :=
      Cursor.rest_skipBlank behind blank' (by decide)
    refine ⟨after.skipBlank.skip 1, [], ?_, blank_nil, by simp [colon]⟩
    simp [skipLabel, skipName, quote, skipped, colon, bind, Except.bind]

theorem exists_of_skipPlain? {cursor stop : Cursor} (h : skipPlain? cursor = some (.ok stop)) :
    ∃ text, Ignored text ∧ cursor.rest = text ++ stop.rest := by
  unfold skipPlain? at h
  split at h
  · cases h
  · rename_i byte rest front
    have word {letters : Bytes} (listed : byte :: letters ∈ words)
        (h : some (readWord (cursor.skip 1) letters) = some (.ok stop)) :
        ∃ text, Ignored text ∧ byte :: rest = text ++ stop.rest := by
      obtain ⟨_, rfl, behind⟩ := covers_readWord letters (Option.some.inj h)
      rw [Cursor.rest_skip_one front] at behind
      exact ⟨_, .word listed, by rw [behind]; rfl⟩
    rw [front]
    dsimp only at h
    repeat' split at h
    · subst_vars
      exact word (by decide) h
    · subst_vars
      exact word (by decide) h
    · subst_vars
      exact word (by decide) h
    · rename_i minus
      obtain ⟨text, number, behind⟩ := covers_skipUnsigned (Option.some.inj h)
      rw [Cursor.rest_skip_one front] at behind
      exact ⟨_, .number (.inr ⟨text, number, rfl⟩), by rw [minus, behind]; rfl⟩
    · obtain ⟨text, number, behind⟩ := covers_skipUnsigned (Option.some.inj h)
      exact ⟨_, .number (.inl number), by rw [← front, behind]⟩
    · rename_i quote
      obtain ⟨_, ⟨body, passable, rfl⟩, behind⟩ := covers_skipText (Option.some.inj h)
      rw [Cursor.rest_skip_one front] at behind
      exact ⟨_, .text passable, by rw [quote, behind]; rfl⟩
    · cases h

theorem opened?_eq_some_iff {byte : UInt8} {bracket : Bracket} :
    opened? byte = some bracket ↔ byte = bracket.opening := by
  unfold opened?
  cases bracket with
  | list =>
    by_cases list : byte = 0x5B
    · simp [list, Bracket.opening]
    · by_cases object : byte = 0x7B <;> simp [list, object, Bracket.opening]
  | object =>
    by_cases list : byte = 0x5B
    · simp [list, Bracket.opening]
    · by_cases object : byte = 0x7B <;> simp [object, Bracket.opening]

/-! ## The first byte of a value -/

theorem visible_of_isDigit {byte : UInt8} (digit : Cursor.isDigit byte = true) :
    Cursor.isBlank byte = false ∧ byte ≠ 0x5D := by
  constructor
  · refine Bool.eq_false_iff.mpr fun blank => ?_
    simp only [Cursor.isBlank, Bool.or_eq_true, beq_iff_eq] at blank
    rcases blank with ((rfl | rfl) | rfl) | rfl <;> cases digit
  · rintro rfl
    cases digit

theorem Unsigned.exists_cons {text : Bytes} (number : Unsigned text) :
    ∃ byte more, text = byte :: more ∧ Cursor.isDigit byte = true := by
  obtain ⟨whole, fraction, exponent, rfl | ⟨digits, -⟩, -, -, rfl⟩ := number
  · exact ⟨0x30, fraction ++ exponent, rfl, rfl⟩
  · obtain ⟨byte, more, rfl⟩ := List.exists_cons_of_ne_nil digits.1
    exact ⟨byte, _, rfl, (digits_cons_iff.mp digits).1⟩

/-- A value begins with a byte that is neither blank nor the bracket of a list. -/
theorem Written.exists_cons {inText : Bytes → Prop} {text : Bytes}
    (value : Written inText .value text) :
    ∃ byte more, text = byte :: more ∧ Cursor.isBlank byte = false ∧ byte ≠ 0x5D := by
  cases value with
  | word listed =>
    have all : ∀ word ∈ words, ∃ byte more, word = byte :: more ∧
        Cursor.isBlank byte = false ∧ byte ≠ 0x5D := by
      simp only [words, List.forall_mem_cons]
      exact ⟨⟨0x6E, _, rfl, by decide⟩, ⟨0x74, _, rfl, by decide⟩, ⟨0x66, _, rfl, by decide⟩,
        by simp⟩
    exact all text listed
  | number number =>
    rcases number with number | ⟨digits, number, rfl⟩
    · obtain ⟨byte, more, rfl, digit⟩ := number.exists_cons
      exact ⟨byte, more, rfl, visible_of_isDigit digit⟩
    · exact ⟨_, _, rfl, by decide⟩
  | text => exact ⟨_, _, rfl, by decide⟩
  | @nested bracket => cases bracket <;> exact ⟨_, _, rfl, by decide⟩

/-! ## What is skipped is a value -/

/-- What closes the open brackets, the innermost of which lacks its elements from the first or from
a later one on. -/
inductive Owed : Bool → List Bracket → Bytes → Prop
  | none {first : Bool} : Owed first [] []
  | bracket {bracket : Bracket} {first : Bool} {outer : List Bracket} {elements tail : Bytes}
      (inside : Written Passable (.inside bracket first) elements)
      (onward : Owed false outer tail) :
      Owed first (bracket :: outer) (elements ++ bracket.closing :: tail)

/-- What follows a comma and a label, up to the closing byte of its bracket. -/
theorem Owed.element {bracket : Bracket} {first : Bool} {outer : List Bracket}
    {comma blanks name blanks' text tail : Bytes} (lead : Lead first comma) (blank : Blank blanks)
    (label : Label Passable bracket name) (blank' : Blank blanks') (value : Ignored text)
    (owed : Owed false (bracket :: outer) tail) :
    Owed first (bracket :: outer) (comma ++ (blanks ++ (name ++ (blanks' ++ (text ++ tail))))) := by
  cases owed with
  | bracket inside onward =>
    have all := Owed.bracket (.element lead blank label blank' value inside) onward
    simpa using all

/-- In front of a value the reader goes behind an opening bracket or behind a single value. -/
theorem exists_of_skipValue {stack : List Bracket} {cursor stop : Cursor}
    (h : skipValue stack cursor = .ok stop) :
    ∃ blanks after, Blank blanks ∧
      ((∃ bracket : Bracket, cursor.rest = blanks ++ bracket.opening :: after.rest ∧
          skipElements false (bracket :: stack) after = .ok stop) ∨
        ∃ text, Ignored text ∧ cursor.rest = blanks ++ (text ++ after.rest) ∧
          skipElements true stack after = .ok stop) := by
  obtain ⟨blanks, blank, all⟩ := cursor.exists_skipBlank
  rw [skipValue_eq] at h
  split at h
  · cases h
  · rename_i byte rest front
    split at h
    · rename_i bracket opened
      rw [front, opened?_eq_some_iff.mp opened] at all
      exact ⟨blanks, cursor.skipBlank.skip 1, blank, .inl ⟨bracket, by simpa [front] using all, h⟩⟩
    · split at h
      · rename_i after plain
        obtain ⟨text, value, behind⟩ := exists_of_skipPlain? plain
        exact ⟨blanks, after, blank, .inr ⟨text, value, by rw [all, behind], h⟩⟩
      · cases h
      · cases h

/-- Between brackets the reader goes behind the closing one, or in front of the next value. -/
theorem exists_of_skipElements {comma : Bool} {bracket : Bracket} {outer : List Bracket}
    {cursor stop : Cursor} (h : skipElements comma (bracket :: outer) cursor = .ok stop) :
    ∃ blanks after, Blank blanks ∧
      ((cursor.rest = blanks ++ bracket.closing :: after.rest ∧
          skipElements true outer after = .ok stop) ∨
        ∃ lead name, Lead (!comma) lead ∧ Label Passable bracket name ∧
          cursor.rest = lead ++ (blanks ++ (name ++ after.rest)) ∧
          skipValue (bracket :: outer) after = .ok stop) := by
  obtain ⟨blanks, blank, all⟩ := cursor.exists_skipBlank
  rw [skipElements_cons] at h
  split at h
  · cases h
  · rename_i byte rest front
    split at h
    · rename_i same
      rw [front, same] at all
      exact ⟨blanks, cursor.skipBlank.skip 1, blank, .inl ⟨by simpa [front] using all, h⟩⟩
    · split at h
      · cases h
      · rename_i noFault
        split at h
        · rename_i after skipped
          obtain ⟨_, ⟨more, name, blank', label, rfl⟩, behind⟩ := covers_skipLabel bracket skipped
          cases comma with
          | false =>
            -- The blanks in front of a name are skipped twice, those in front of an element once.
            refine ⟨blanks ++ more, after, blank_append blank blank',
              .inr ⟨[], name, .first, label, ?_, h⟩⟩
            simp only [Bool.false_eq_true, if_false] at behind
            rw [all, behind]
            simp
          | true =>
            refine ⟨more, after, blank', .inr ⟨_, name, .more blank, label, ?_, h⟩⟩
            obtain rfl : byte = 0x2C := by simpa using noFault
            rw [if_pos rfl, Cursor.rest_skip_one front] at behind
            rw [all, front, behind]
            simp
        · cases h

/-- What was skipped is a value and what closes the open brackets, by induction on a bound for what
is left of the text. -/
theorem exists_of_skip (bound : Nat) :
    (∀ {stack : List Bracket} {cursor stop : Cursor}, cursor.rest.length < bound →
      skipValue stack cursor = .ok stop →
        ∃ blanks text tail, Blank blanks ∧ Ignored text ∧ Owed false stack tail ∧
          cursor.rest = blanks ++ (text ++ (tail ++ stop.rest))) ∧
    (∀ {comma : Bool} {stack : List Bracket} {cursor stop : Cursor}, cursor.rest.length < bound →
      skipElements comma stack cursor = .ok stop →
        ∃ tail, Owed (!comma) stack tail ∧ cursor.rest = tail ++ stop.rest) := by
  induction bound with
  | zero => exact ⟨fun h => absurd h (Nat.not_lt_zero _), fun h => absurd h (Nat.not_lt_zero _)⟩
  | succ bound ih =>
    -- Values come first: the first element of a list may begin where the reader of elements stands.
    have value : ∀ {stack : List Bracket} {cursor stop : Cursor}, cursor.rest.length < bound + 1 →
        skipValue stack cursor = .ok stop →
          ∃ blanks text tail, Blank blanks ∧ Ignored text ∧ Owed false stack tail ∧
            cursor.rest = blanks ++ (text ++ (tail ++ stop.rest)) := by
      intro stack cursor stop short h
      obtain ⟨blanks, after, blank, ⟨bracket, front, h⟩ | ⟨text, value, front, h⟩⟩ :=
        exists_of_skipValue h
      · simp only [front, List.length_append, List.length_cons] at short
        obtain ⟨_, owed, behind⟩ := ih.2 (by omega) h
        cases owed with
        | bracket inside onward =>
          exact ⟨blanks, _, _, blank, .nested inside, onward, by rw [front, behind]; simp⟩
      · obtain ⟨byte, more, rfl, -⟩ := value.exists_cons
        simp only [front, List.length_append, List.length_cons] at short
        obtain ⟨tail, owed, behind⟩ := ih.2 (by omega) h
        exact ⟨blanks, _, tail, blank, value, owed, by rw [front, behind]⟩
    refine ⟨value, fun {comma stack cursor stop} short h => ?_⟩
    cases stack with
    | nil =>
      rw [skipElements_nil] at h
      cases h
      exact ⟨[], .none, rfl⟩
    | cons bracket outer =>
      obtain ⟨blanks, after, blank, ⟨front, h⟩ | ⟨lead, name, led, label, front, h⟩⟩ :=
        exists_of_skipElements h
      · simp only [front, List.length_append, List.length_cons] at short
        obtain ⟨tail, owed, behind⟩ := ih.2 (by omega) h
        exact ⟨_, .bracket (.close blank) owed, by rw [front, behind]; simp⟩
      · simp only [front, List.length_append] at short
        obtain ⟨blanks', text, tail, blank', written, owed, behind⟩ := value (by omega) h
        exact ⟨_, owed.element led blank label blank' written, by rw [front, behind]; simp⟩

theorem covers_skipValue :
    Covers (skipValue []) fun text =>
      ∃ blanks value, Blank blanks ∧ Ignored value ∧ text = blanks ++ value := by
  intro cursor stop h
  obtain ⟨blanks, value, _, blank, written, owed, front⟩ :=
    (exists_of_skip _).1 (Nat.lt_succ_self _) h
  cases owed with
  | none => exact ⟨_, ⟨blanks, value, blank, written, rfl⟩, by simpa using front⟩

/-! ## Every value is skipped -/

/-- Reading over this part the reader gets to what is behind it, with the same brackets open. -/
def Skipped : Part → Bytes → Prop
  | .value, text => ∀ (stack : List Bracket) (blanks rest : Bytes) (cursor : Cursor),
    Blank blanks → Delimited rest → cursor.rest = blanks ++ (text ++ rest) →
      ∃ after, skipValue stack cursor = skipElements true stack after ∧ after.rest = rest
  | .inside bracket first, text => ∀ (outer : List Bracket) (rest : Bytes) (cursor : Cursor),
    cursor.rest = text ++ bracket.closing :: rest →
      ∃ after, skipElements (!first) (bracket :: outer) cursor = skipElements true outer after ∧
        after.rest = rest

theorem visible_closing (bracket : Bracket) : Cursor.isBlank bracket.closing = false := by
  cases bracket <;> rfl

theorem delimited_of_isBlank {byte : UInt8} {rest : Bytes} (blank : Cursor.isBlank byte = true) :
    Delimited (byte :: rest) := by
  rintro _ ⟨⟩
  simp only [Cursor.isBlank, Bool.or_eq_true, beq_iff_eq] at blank
  rcases blank with ((rfl | rfl) | rfl) | rfl <;> decide

theorem delimited_of_blank {blanks rest : Bytes} (blank : Blank blanks) (ends : Delimited rest) :
    Delimited (blanks ++ rest) := by
  cases blanks with
  | nil => exact ends
  | cons byte blanks => exact delimited_of_isBlank (blank byte (by simp))

theorem delimited_closing {blanks rest : Bytes} (blank : Blank blanks) (bracket : Bracket) :
    Delimited (blanks ++ bracket.closing :: rest) := by
  refine delimited_of_blank blank ?_
  rintro _ ⟨⟩
  cases bracket <;> decide

theorem delimited_comma {comma rest : Bytes} (lead : Lead false comma) :
    Delimited (comma ++ rest) := by
  cases lead with
  | more blank =>
    rw [List.append_assoc]
    refine delimited_of_blank blank ?_
    rintro _ ⟨⟩
    decide

theorem delimited_inside {bracket : Bracket} {elements rest : Bytes}
    (inside : Written Passable (.inside bracket false) elements) :
    Delimited (elements ++ bracket.closing :: rest) := by
  cases inside with
  | close blank => exact delimited_closing blank bracket
  | element lead =>
    rw [List.append_assoc]
    exact delimited_comma lead

theorem delimited_listing {α : Type} {form : Bytes → α → Prop} {elements rest : Bytes}
    {items : List α} (listing : Listing form false elements items) (bracket : Bracket) :
    Delimited (elements ++ bracket.closing :: rest) := by
  cases listing with
  | close blank => exact delimited_closing blank bracket
  | element lead =>
    rw [List.append_assoc]
    exact delimited_comma lead

/-- A single value is skipped when its first byte opens no bracket. -/
theorem skipped_of_plain {byte : UInt8} {more : Bytes} (visible : Cursor.isBlank byte = false)
    (closed : opened? byte = none)
    (read : ∀ (rest : Bytes) (cursor : Cursor), Delimited rest →
      cursor.rest = byte :: more ++ rest →
        ∃ after, skipPlain? cursor = some (.ok after) ∧ after.rest = rest) :
    Skipped .value (byte :: more) := by
  intro stack blanks rest cursor blank delimited front
  have start : cursor.skipBlank.rest = byte :: (more ++ rest) :=
    Cursor.rest_skipBlank front blank visible
  obtain ⟨after, plain, left⟩ := read rest cursor.skipBlank delimited start
  refine ⟨after, ?_, left⟩
  simp only [skipValue_eq, start, closed, plain]

theorem skipPlain?_word {byte : UInt8} {letters rest : Bytes} (listed : byte :: letters ∈ words)
    {cursor : Cursor} (front : cursor.rest = byte :: rest) :
    skipPlain? cursor = some (readWord (cursor.skip 1) letters) := by
  have all : words = [[0x6E, 0x75, 0x6C, 0x6C], [0x74, 0x72, 0x75, 0x65],
    [0x66, 0x61, 0x6C, 0x73, 0x65]] := by decide
  simp only [all, List.mem_cons, List.cons.injEq, List.not_mem_nil, or_false] at listed
  rcases listed with ⟨rfl, rfl⟩ | ⟨rfl, rfl⟩ | ⟨rfl, rfl⟩
  all_goals simp [skipPlain?, front]

theorem skipped_word {word : Bytes} (listed : word ∈ words) : Skipped .value word := by
  have value : Ignored word := .word listed
  obtain ⟨byte, letters, rfl, visible, -⟩ := value.exists_cons
  have closed : ∀ word ∈ words, word.head?.bind opened? = none := by decide
  refine skipped_of_plain visible (closed _ listed) fun rest cursor _ front => ?_
  obtain ⟨after, success, left⟩ := passes_readWord letters rest (cursor.skip 1) (by simp [front])
  exact ⟨after, by rw [skipPlain?_word listed front]; exact congrArg some success, left⟩

theorem opened?_of_isDigit {byte : UInt8} (digit : Cursor.isDigit byte = true) :
    opened? byte = none := by
  cases opened : opened? byte with
  | none => rfl
  | some bracket =>
    rw [opened?_eq_some_iff.mp opened] at digit
    cases bracket <;> cases digit

theorem skipPlain?_digit {byte : UInt8} {rest : Bytes} (digit : Cursor.isDigit byte = true)
    {cursor : Cursor} (front : cursor.rest = byte :: rest) :
    skipPlain? cursor = some (skipUnsigned cursor) := by
  have other {mark : UInt8} (none : Cursor.isDigit mark = false) : byte ≠ mark := by
    rintro rfl
    exact absurd digit (by simp [none])
  have n : byte ≠ 0x6E := other rfl
  have t : byte ≠ 0x74 := other rfl
  have f : byte ≠ 0x66 := other rfl
  have minus : byte ≠ 0x2D := other rfl
  simp [skipPlain?, front, n, t, f, minus, digit]

theorem skipped_number {text : Bytes} (number : Number text) : Skipped .value text := by
  rcases number with number | ⟨digits, number, rfl⟩
  · obtain ⟨byte, more, rfl, digit⟩ := number.exists_cons
    refine skipped_of_plain (visible_of_isDigit digit).1 (opened?_of_isDigit digit)
      fun rest cursor delimited front => ?_
    obtain ⟨after, success, left⟩ := passes_skipUnsigned number delimited cursor front
    exact ⟨after, by rw [skipPlain?_digit digit front, success], left⟩
  · refine skipped_of_plain (by decide) (by decide) fun rest cursor delimited front => ?_
    obtain ⟨after, success, left⟩ :=
      passes_skipUnsigned number delimited (cursor.skip 1) (by simp [front])
    exact ⟨after, by simp [skipPlain?, front, success], left⟩

theorem skipped_text {body : Bytes} (passable : Passable body) :
    Skipped .value (0x22 :: (body ++ [0x22])) := by
  refine skipped_of_plain (by decide) (by decide) fun rest cursor _ front => ?_
  obtain ⟨after, success, left⟩ := passes_skipText passable rest (cursor.skip 1) (by simp [front])
  exact ⟨after, by simp [skipPlain?, front, success, Cursor.isDigit], left⟩

theorem skipped_nested {bracket : Bracket} {elements : Bytes}
    (inside : Skipped (.inside bracket true) elements) :
    Skipped .value (bracket.opening :: (elements ++ [bracket.closing])) := by
  intro stack blanks rest cursor blank _ front
  have start : cursor.skipBlank.rest =
      bracket.opening :: (elements ++ bracket.closing :: rest) :=
    Cursor.rest_skipBlank (by simpa using front) blank (by cases bracket <;> rfl)
  obtain ⟨after, success, left⟩ := inside stack rest (cursor.skipBlank.skip 1) (by simp [start])
  refine ⟨after, ?_, left⟩
  simp only [skipValue_eq, start, opened?_eq_some_iff.mpr rfl]
  exact success

theorem skipped_close {bracket : Bracket} {first : Bool} {blanks : Bytes} (blank : Blank blanks) :
    Skipped (.inside bracket first) blanks := by
  intro outer rest cursor front
  have start := Cursor.rest_skipBlank front blank (visible_closing bracket)
  refine ⟨cursor.skipBlank.skip 1, ?_, by simp [start]⟩
  simp only [skipElements_cons, start, if_true]

/-- The first element of a bracket does not begin with its closing byte. -/
theorem exists_skipBlank_of_label {bracket : Bracket} {name blanks blanks' text rest : Bytes}
    (label : Label Passable bracket name) (blank : Blank blanks) (blank' : Blank blanks')
    (value : Ignored text) {cursor : Cursor}
    (front : cursor.rest = blanks ++ (name ++ (blanks' ++ (text ++ rest)))) :
    ∃ byte more blanks'', cursor.skipBlank.rest = byte :: more ∧ byte ≠ bracket.closing ∧
      Blank blanks'' ∧ byte :: more = name ++ (blanks'' ++ (text ++ rest)) := by
  cases label with
  | none =>
    obtain ⟨byte, more, rfl, visible, other⟩ := value.exists_cons
    have start : cursor.skipBlank.rest = byte :: (more ++ rest) :=
      Cursor.rest_skipBlank (by simpa using front) (blank_append blank blank') visible
    exact ⟨byte, _, [], start, other, blank_nil, rfl⟩
  | name passable =>
    exact ⟨0x22, _, blanks', Cursor.rest_skipBlank front blank (by decide), by decide, blank', rfl⟩

theorem skipped_element {bracket : Bracket} {first : Bool}
    {comma blanks name blanks' text elements : Bytes} (lead : Lead first comma)
    (blank : Blank blanks) (label : Label Passable bracket name) (blank' : Blank blanks')
    (value : Ignored text) (inside : Written Passable (.inside bracket false) elements)
    (skipped : Skipped .value text) (onward : Skipped (.inside bracket false) elements) :
    Skipped (.inside bracket first)
      (comma ++ (blanks ++ (name ++ (blanks' ++ (text ++ elements))))) := by
  intro outer rest cursor front
  have labelled {start : Cursor} {more more' : Bytes} (blank : Blank more) (blank' : Blank more')
      (front : start.rest = more ++ (name ++ (more' ++
        (text ++ (elements ++ bracket.closing :: rest))))) :
      ∃ next after, skipLabel bracket start = .ok next ∧
        skipValue (bracket :: outer) next = skipElements true outer after ∧ after.rest = rest := by
    obtain ⟨next, more'', success, blank'', behind⟩ := passes_skipLabel label blank front
    rw [← List.append_assoc more''] at behind
    obtain ⟨middle, step, toElements⟩ := skipped (bracket :: outer) _ _ next
      (blank_append blank'' blank') (delimited_inside inside) behind
    obtain ⟨after, step', left⟩ := onward outer rest middle toElements
    exact ⟨next, after, success, step.trans step', left⟩
  cases lead with
  | first =>
    obtain ⟨byte, more, blanks'', start, inner, blank'', same⟩ :=
      exists_skipBlank_of_label label blank blank' value (by simpa using front)
    obtain ⟨next, after, success, step, left⟩ :=
      labelled blank_nil blank'' (start.trans same)
    refine ⟨after, ?_, left⟩
    simp only [skipElements_cons, start, if_neg inner]
    simp [success, step]
  | @more before blank'' =>
    have front : cursor.rest = before ++ 0x2C :: (blanks ++ (name ++ (blanks' ++
        (text ++ (elements ++ bracket.closing :: rest))))) := by simpa using front
    have start := Cursor.rest_skipBlank front blank'' (by decide)
    have behind : (cursor.skipBlank.skip 1).rest = blanks ++ (name ++ (blanks' ++
        (text ++ (elements ++ bracket.closing :: rest)))) := by simp [start]
    obtain ⟨next, after, success, step, left⟩ := labelled blank blank' behind
    refine ⟨after, ?_, left⟩
    have inner : (0x2C : UInt8) ≠ bracket.closing := by cases bracket <;> decide
    simp only [skipElements_cons, start, if_neg inner]
    simp [success, step]

/-- Every value is skipped, and so is what stands between brackets. -/
theorem skipped_of_written {part : Part} {text : Bytes} (written : Written Passable part text) :
    Skipped part text := by
  induction written with
  | word listed => exact skipped_word listed
  | number number => exact skipped_number number
  | text passable => exact skipped_text passable
  | nested _ ih => exact skipped_nested ih
  | close blank => exact skipped_close blank
  | element lead blank label blank' value inside ih ih' =>
    exact skipped_element lead blank label blank' value inside ih ih'

/-- A value is skipped where something that ends it comes next. -/
theorem passes_skipValue {blanks text rest : Bytes} (blank : Blank blanks) (value : Ignored text)
    (delimited : Delimited rest) : Passes (skipValue []) (blanks ++ (text ++ rest)) rest := by
  intro cursor front
  obtain ⟨after, step, left⟩ := skipped_of_written value [] blanks rest cursor blank delimited front
  exact ⟨after, by rw [step, skipElements_nil], left⟩

end UnityBuild.Json
