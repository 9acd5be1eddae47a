import UnityBuild.Database.Reader
import UnityBuild.Proofs.Json.Reading

/-!
# What the database reader takes off the front of a text

The rules for members, entries and the list of them. Each reader goes on from where the one before
it stopped, so a rule follows its parts from one text to the next. They hold for any text in which
the parts can be read, however it was written.
-/

namespace UnityBuild.Database

open Json

variable {before middle behind after : Bytes}

/-! ## Members -/

theorem field?_name (field : Field) : field? field.name = some field := by
  cases field <;> decide

/-- A member of an entry is its name, a colon, and a text. -/
theorem reads_readMember {members : Members} {field : Field} {value : String} {colon text : Bytes}
    (fresh : members.get field = .none) (name : Reads readText before field.name colon)
    (mark : Passes readColon colon text) (string : Reads readString text value after) :
    Reads (readMember members) before (members.set field value) after := by
  intro cursor front
  obtain ⟨first, named, toColon⟩ := name cursor front
  obtain ⟨second, marked, toText⟩ := mark first toColon
  obtain ⟨last, given, left⟩ := string second toText
  refine ⟨last, ?_, left⟩
  simp [readMember, named, field?_name, fresh, marked, given, bind, Except.bind, pure, Except.pure]

theorem readMembers_eq (members : Members) (first : Bool) (cursor : Cursor) :
    readMembers members first cursor =
      match nextName first cursor with
      | .error refusal => .error refusal
      | .ok (false, stop) =>
        match members.entry with
        | .ok entry => .ok (entry, closeIf .object stop)
        | .error field => .error ((closeIf .object stop).here (.missing field))
      | .ok (true, start) =>
        match readMember members start with
        | .error refusal => .error refusal
        | .ok (more, after) => readMembers more false after := by
  rw [readMembers]
  split
  · rename_i name
    simp only [name]
  · rename_i name
    cases members.entry <;> simp only [name]
  · rename_i name
    simp only [name]
    split
    · rename_i member
      simp only [member]
    · rename_i member
      simp only [member]

theorem exists_readMembers_eq {members more : Members} {first : Bool}
    (name : Reads (nextName first) before true middle)
    (member : Reads (readMember members) middle more behind) {cursor : Cursor}
    (front : cursor.rest = before) :
    ∃ next, next.rest = behind ∧
      readMembers members first cursor = readMembers more false next := by
  obtain ⟨start, found, toMember⟩ := name cursor front
  obtain ⟨next, read, toRest⟩ := member start toMember
  refine ⟨next, toRest, ?_⟩
  rw [readMembers_eq, found]
  simp only [read]

/-- The members of an entry are read one after the other. -/
theorem reads_readMembers_member {members more : Members} {first : Bool} {entry : Entry}
    (name : Reads (nextName first) before true middle)
    (member : Reads (readMember members) middle more behind)
    (rest : Reads (readMembers more false) behind entry after) :
    Reads (readMembers members first) before entry after := by
  intro cursor front
  obtain ⟨next, toRest, onward⟩ := exists_readMembers_eq name member front
  rw [onward]
  exact rest next toRest

theorem reads_readMembers_end {members : Members} {first : Bool} {entry : Entry}
    (name : Reads (nextName first) before false (0x7D :: after))
    (complete : members.entry = .ok entry) :
    Reads (readMembers members first) before entry after := by
  intro cursor front
  obtain ⟨stop, found, bracket⟩ := name cursor front
  refine ⟨closeIf .object stop, ?_, rest_closeIf bracket⟩
  rw [readMembers_eq, found]
  simp only [complete]

/-! ## Entries -/

theorem reads_readEntry_object {entry : Entry} (blanks : Bytes) (blank : Blank blanks)
    (members : Reads (readMembers .none true) before entry after) :
    Reads readEntry (blanks ++ 0x7B :: before) entry after := by
  intro cursor front
  have start := Cursor.rest_skipBlank front blank (by decide)
  obtain ⟨stop, success, left⟩ := members (cursor.skipBlank.skip 1) (by simp [start])
  exact ⟨stop, by simp [readEntry, start, success], left⟩

theorem readEntries_eq (done : Array Entry) (first : Bool) (cursor : Cursor) :
    readEntries done first cursor =
      match nextElement first cursor with
      | .error refusal => .error refusal
      | .ok (false, stop) => .ok (done.toList, stop.skip 1)
      | .ok (true, start) =>
        match readEntry start with
        | .error refusal => .error refusal
        | .ok (entry, after) => readEntries (done.push entry) false after := by
  rw [readEntries]
  split
  · rename_i next
    simp only [next]
  · rename_i next
    simp only [next]
  · rename_i next
    simp only [next]
    split
    · rename_i element
      simp only [element]
    · rename_i element
      simp only [element]

theorem exists_readEntries_eq {done : Array Entry} {first : Bool} {entry : Entry}
    (next : Reads (nextElement first) before true middle)
    (element : Reads readEntry middle entry behind) {cursor : Cursor}
    (front : cursor.rest = before) :
    ∃ stop, stop.rest = behind ∧
      readEntries done first cursor = readEntries (done.push entry) false stop := by
  obtain ⟨start, found, toEntry⟩ := next cursor front
  obtain ⟨stop, read, toRest⟩ := element start toEntry
  refine ⟨stop, toRest, ?_⟩
  rw [readEntries_eq, found]
  simp only [read]

theorem reads_readEntries_element {done : Array Entry} {first : Bool} {entry : Entry}
    {entries : List Entry} (next : Reads (nextElement first) before true middle)
    (element : Reads readEntry middle entry behind)
    (rest : Reads (readEntries (done.push entry) false) behind entries after) :
    Reads (readEntries done first) before entries after := by
  intro cursor front
  obtain ⟨stop, toRest, onward⟩ := exists_readEntries_eq next element front
  rw [onward]
  exact rest stop toRest

/-- Where the list ends, the entries are those that were read. -/
theorem reads_readEntries_end {done : Array Entry} {first : Bool}
    (next : Reads (nextElement first) before false (0x5D :: after)) :
    Reads (readEntries done first) before done.toList after := by
  intro cursor front
  obtain ⟨stop, found, bracket⟩ := next cursor front
  exact ⟨stop.skip 1, by rw [readEntries_eq, found], by simp [bracket]⟩

/-- A database is one list of entries with blanks around it. -/
theorem parse_of_reads {entries : List Entry} (blanks : Bytes) (blank : Blank blanks)
    (list : Reads (readEntries #[] true) before entries after) (blank' : Blank after) :
    parse (blanks ++ 0x5B :: before) = .ok entries := by
  have front : (Cursor.start (blanks ++ 0x5B :: before)).rest = blanks ++ 0x5B :: before := rfl
  have start := Cursor.rest_skipBlank front blank (by decide)
  obtain ⟨stop, success, left⟩ :=
    list ((Cursor.start (blanks ++ 0x5B :: before)).skipBlank.skip 1) (by simp [start])
  have ending : stop.skipBlank.rest = [] := Cursor.rest_skipBlank_of_blank (left ▸ blank')
  have all : readAll (blanks ++ 0x5B :: before) = .ok entries := by
    simp [readAll, start, success, ending, bind, Except.bind, pure, Except.pure]
  rw [parse, all]
  rfl

end UnityBuild.Database
