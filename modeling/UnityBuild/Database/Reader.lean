import UnityBuild.Entry
import UnityBuild.Json.Element

/-!
# Reading a compilation database

A database is one JSON list of entries. An entry is an object in which `directory`, `command` and
`file` occur once each, in any order, each with a text as its value; members of other names may
stand between them and are skipped. A list of exactly three texts in that order is an entry as well.
-/

namespace UnityBuild.Database

open Json

/-- The members of an entry that were read so far. -/
structure Members where
  directory : Option String
  command : Option String
  file : Option String
  deriving DecidableEq, Repr

namespace Members

def none : Members := ⟨.none, .none, .none⟩

def get (members : Members) : Field → Option String
  | .directory => members.directory
  | .command => members.command
  | .file => members.file

def set (members : Members) (field : Field) (value : String) : Members :=
  match field with
  | .directory => { members with directory := some value }
  | .command => { members with command := some value }
  | .file => { members with file := some value }

def entry (members : Members) : Except Field Entry :=
  match members.directory, members.command, members.file with
  | some directory, some command, some file => .ok ⟨directory, command, file⟩
  | .none, _, _ => .error .directory
  | _, .none, _ => .error .command
  | _, _, .none => .error .file

@[simp] theorem get_set_self (members : Members) (field : Field) (value : String) :
    (members.set field value).get field = some value := by
  cases field <;> rfl

theorem get_set_ne (members : Members) {field other : Field} (h : other ≠ field)
    (value : String) :
    (members.set field value).get other = members.get other := by
  cases field <;> cases other <;> first | rfl | exact absurd rfl h

/-- The members are an entry when all three are there. -/
theorem entry_eq_ok_iff {members : Members} {entry : Entry} :
    members.entry = .ok entry ↔
      members = ⟨some entry.directory, some entry.command, some entry.file⟩ := by
  obtain ⟨directory, command, file⟩ := members
  obtain ⟨directory', command', file'⟩ := entry
  cases directory <;> cases command <;> cases file <;> simp [Members.entry]

end Members

def field? (name : String) : Option Field :=
  if name = Field.directory.name then some .directory
  else if name = Field.command.name then some .command
  else if name = Field.file.name then some .file
  else none

/-- Reads a member, from behind the opening quote of its name. -/
def readMember (members : Members) (cursor : Cursor) : Except Refusal (Members × Cursor) := do
  let (name, after) ← readText cursor
  match field? name with
  | none =>
    let value ← readColon after
    return (members, ← skipValue [] value)
  | some field =>
    if (members.get field).isSome then .error ((closeIf .object after).here (.repeated field))
    else
      let value ← readColon after
      let (text, after) ← readString value
      return (members.set field text, after)

theorem ahead_readMember {members result : Members} {cursor after : Cursor}
    (h : readMember members cursor = .ok (result, after)) : after.Ahead cursor := by
  rw [readMember] at h
  obtain ⟨⟨name, behind⟩, hname, h⟩ := exists_of_bind_eq_ok h
  have hbehind := ahead_readText hname
  simp only [Cursor.Ahead] at hbehind ⊢
  dsimp only at h
  split at h
  · obtain ⟨value, hcolon, h⟩ := exists_of_bind_eq_ok h
    obtain ⟨last, hskip, h⟩ := exists_of_bind_eq_ok h
    have := length_readColon hcolon
    have := length_skipValue hskip
    simp only [pure, Except.pure, Except.ok.injEq, Prod.mk.injEq] at h
    obtain ⟨_, rfl⟩ := h
    omega
  · split at h
    · cases h
    · obtain ⟨value, hcolon, h⟩ := exists_of_bind_eq_ok h
      obtain ⟨⟨text, last⟩, hstring, h⟩ := exists_of_bind_eq_ok h
      have := length_readColon hcolon
      have hlast := ahead_readString hstring
      simp only [pure, Except.pure, Except.ok.injEq, Prod.mk.injEq] at h
      obtain ⟨_, rfl⟩ := h
      simp only [Cursor.Ahead] at hlast
      omega

/-- Reads the members of an entry that are left, and the bracket behind them. -/
def readMembers (members : Members) (first : Bool) (cursor : Cursor) :
    Except Refusal (Entry × Cursor) :=
  match _hname : nextName first cursor with
  | .error refusal => .error refusal
  | .ok (false, stop) =>
    match members.entry with
    | .ok entry => .ok (entry, closeIf .object stop)
    | .error field => .error ((closeIf .object stop).here (.missing field))
  | .ok (true, start) =>
    match _hmember : readMember members start with
    | .error refusal => .error refusal
    | .ok (more, after) => readMembers more false after
termination_by cursor.rest.length
decreasing_by
  have := length_nextName _hname
  have hmember := ahead_readMember _hmember
  simp only [Cursor.Ahead] at hmember
  omega

/-- Reads the part of an entry that has the given number of parts before it. -/
def readPart (count : Nat) (cursor : Cursor) : Except Refusal (String × Cursor) := do
  let (found, start) ← nextElement (count == 0) cursor
  if found then readString start
  else .error ((closeIf .list start).here (.wrongLength count))

/-- Reads the three parts of an entry that is written as a list, and the bracket behind them. -/
def readParts (cursor : Cursor) : Except Refusal (Entry × Cursor) := do
  let (directory, cursor) ← readPart 0 cursor
  let (command, cursor) ← readPart 1 cursor
  let (file, cursor) ← readPart 2 cursor
  return (⟨directory, command, file⟩, ← endList cursor)

def readEntry (cursor : Cursor) : Except Refusal (Entry × Cursor) :=
  let start := cursor.skipBlank
  if start.rest.head? == some 0x5B then readParts (start.skip 1)
  else if start.rest.head? == some 0x7B then readMembers .none true (start.skip 1)
  else .error (refuseKind start .entry)

theorem length_closeIf (bracket : Bracket) (cursor : Cursor) :
    (closeIf bracket cursor).rest.length ≤ cursor.rest.length := by
  have := Cursor.length_skipBlank cursor
  unfold closeIf
  dsimp only
  split
  · simp only [Cursor.length_skip]
    omega
  · exact this

theorem length_readMembers {members : Members} {first : Bool} {cursor after : Cursor}
    {entry : Entry} (h : readMembers members first cursor = .ok (entry, after)) :
    after.rest.length ≤ cursor.rest.length := by
  fun_induction readMembers members first cursor with
  | case1 => cases h
  | case2 _ _ _ stop hname _ _ =>
    have := length_nextName hname
    have := length_closeIf .object stop
    simp only [Except.ok.injEq, Prod.mk.injEq] at h
    obtain ⟨_, rfl⟩ := h
    omega
  | case3 => cases h
  | case4 => cases h
  | case5 _ _ _ start hname _ next hmember ih =>
    have := length_nextName hname
    have := ahead_readMember hmember
    have := ih h
    simp only [Cursor.Ahead] at *
    omega

theorem ahead_readPart {count : Nat} {cursor after : Cursor} {text : String}
    (h : readPart count cursor = .ok (text, after)) : after.Ahead cursor := by
  rw [readPart] at h
  obtain ⟨⟨found, start⟩, helement, h⟩ := exists_of_bind_eq_ok h
  have := length_nextElement helement
  dsimp only at h
  split at h
  · have hlast := ahead_readString h
    simp only [Cursor.Ahead] at hlast ⊢
    omega
  · cases h

theorem length_endList {cursor after : Cursor} (h : endList cursor = .ok after) :
    after.rest.length ≤ cursor.rest.length := by
  have := Cursor.length_skipBlank cursor
  unfold endList at h
  dsimp only at h
  repeat' split at h
  · cases h
  · cases h
    simp only [Cursor.length_skip]
    omega
  all_goals cases h

theorem ahead_readEntry {cursor after : Cursor} {entry : Entry}
    (h : readEntry cursor = .ok (entry, after)) : after.Ahead cursor := by
  have hblank := Cursor.length_skipBlank cursor
  unfold Cursor.Ahead
  unfold readEntry at h
  dsimp only at h
  split at h
  · rw [readParts] at h
    obtain ⟨⟨directory, first⟩, hfirst, h⟩ := exists_of_bind_eq_ok h
    obtain ⟨⟨command, second⟩, hsecond, h⟩ := exists_of_bind_eq_ok h
    obtain ⟨⟨file, third⟩, hthird, h⟩ := exists_of_bind_eq_ok h
    obtain ⟨last, hlast, h⟩ := exists_of_bind_eq_ok h
    have h1 := ahead_readPart hfirst
    have h2 := ahead_readPart hsecond
    have h3 := ahead_readPart hthird
    have := length_endList hlast
    simp only [pure, Except.pure, Except.ok.injEq, Prod.mk.injEq] at h
    obtain ⟨_, rfl⟩ := h
    simp only [Cursor.Ahead, Cursor.length_skip] at h1 h2 h3
    omega
  · split at h
    · rename_i hopen
      have hlength : 0 < cursor.skipBlank.rest.length := by
        cases hrest : cursor.skipBlank.rest with
        | nil => simp [hrest] at hopen
        | cons => simp
      have := length_readMembers h
      simp only [Cursor.length_skip] at this
      omega
    · cases h

/-- Reads the entries of a database that are left, and the bracket behind them. -/
def readEntries (done : Array Entry) (first : Bool) (cursor : Cursor) :
    Except Refusal (List Entry × Cursor) :=
  match _hnext : nextElement first cursor with
  | .error refusal => .error refusal
  | .ok (false, stop) => .ok (done.toList, stop.skip 1)
  | .ok (true, start) =>
    match _hentry : readEntry start with
    | .error refusal => .error refusal
    | .ok (entry, after) => readEntries (done.push entry) false after
termination_by cursor.rest.length
decreasing_by
  have := length_nextElement _hnext
  have hentry := ahead_readEntry _hentry
  simp only [Cursor.Ahead] at hentry
  omega

/-- Reads a whole text: one list of entries, with nothing but blanks around it. -/
def readAll (text : Bytes) : Except Refusal (List Entry) := do
  let start := (Cursor.start text).skipBlank
  if start.rest.head? == some 0x5B then
    let (entries, after) ← readEntries #[] true (start.skip 1)
    let stop := after.skipBlank
    if stop.rest.isEmpty then return entries
    else .error (stop.peek .trailingCharacters)
  else .error (refuseKind start .sequence)

/-- The entries of a database, or what is wrong with its text. Everything up to the end of the text
is read, and only blanks may follow the list. -/
def parse (text : Bytes) : Except Complaint (List Entry) :=
  (readAll text).mapError (·.complaint text)

end UnityBuild.Database
