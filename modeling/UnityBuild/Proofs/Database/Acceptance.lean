import UnityBuild.Database.File
import UnityBuild.Proofs.Database.Grammar
import UnityBuild.Proofs.Database.Reading
import UnityBuild.Proofs.Json.Elements

/-!
# Which texts are read as a database

The reader succeeds on the documents of the grammar, and on no other text. It goes through the
members of an object once and remembers one text for each field. What it remembers and what the
members that are left will give are together what all members give for the field: this is the
invariant of its loop, and at the end of the object it says that each field was given once.
-/

namespace UnityBuild.Database

open Json

/-! ## Members -/

theorem field?_eq_some_iff {letters : String} {field : Field} :
    field? letters = some field ↔ letters = field.name := by
  constructor
  · intro h
    unfold field? at h
    repeat' split at h
    all_goals cases h
    all_goals assumption
  · rintro rfl
    exact field?_name field

theorem field?_eq_none_iff {letters : String} :
    field? letters = none ↔ ∀ field : Field, letters ≠ field.name := by
  simp only [Option.eq_none_iff_forall_ne_some, ne_eq, field?_eq_some_iff]

namespace Members

@[simp] theorem get_none (field : Field) : none.get field = .none := by
  cases field <;> rfl

/-- The members when one more was read. -/
def tell (members : Members) : Option (Field × String) → Members
  | some (field, value) => members.set field value
  | .none => members

/-- What a member gives was not given yet. -/
def Fresh (members : Members) (member : Option (Field × String)) : Prop :=
  ∀ field value, member = some (field, value) → members.get field = .none

/-- What was read for a field and what is given next are both there afterwards. -/
theorem get_tell {members : Members} {member : Option (Field × String)}
    (fresh : members.Fresh member) (field : Field) :
    ((members.tell member).get field).toList =
      (members.get field).toList ++ (given? field member).toList := by
  cases member with
  | none => simp [tell, given?]
  | some member =>
    obtain ⟨other, value⟩ := member
    by_cases same : other = field
    · subst same
      simp [tell, given?, fresh other value rfl]
    · rw [tell, get_set_ne members (Ne.symm same)]
      simp [given?, same]

/-- A field that was read and is given again would have two texts. -/
theorem fresh_of_length_le {members : Members} {member : Option (Field × String)}
    {told : List (Option (Field × String))}
    (single : ∀ field, ((members.get field).toList ++ given field (member :: told)).length ≤ 1) :
    members.Fresh member := by
  rintro field value rfl
  have own := single field
  rw [given_cons] at own
  cases known : members.get field with
  | none => rfl
  | some value => simp [known, given?] at own

/-- The members are an entry when every field has its text. -/
theorem entry_eq_ok {members : Members} {entry : Entry}
    (all : ∀ field, members.get field = some (fieldText entry field)) :
    members.entry = .ok entry := by
  have directory : members.directory = _ := all .directory
  have command : members.command = _ := all .command
  have file : members.file = _ := all .file
  rw [Members.entry, directory, command, file]
  rfl

theorem get_of_entry_eq_ok {members : Members} {entry : Entry} (h : members.entry = .ok entry)
    (field : Field) : members.get field = some (fieldText entry field) := by
  rw [entry_eq_ok_iff.mp h]
  cases field <;> rfl

end Members

/-- Whatever is read as a member is one, and gives nothing that was given before. -/
theorem exists_of_readMember {members more : Members} {cursor stop : Cursor}
    (h : readMember members cursor = .ok (more, stop)) :
    ∃ text member, Member Passable (0x22 :: text) member ∧ members.Fresh member ∧
      more = members.tell member ∧ cursor.rest = text ++ stop.rest := by
  rw [readMember] at h
  obtain ⟨⟨letters, after⟩, name, h⟩ := exists_of_bind_eq_ok h
  obtain ⟨_, ⟨body, spelling, rfl⟩, front⟩ := takes_readText name
  have named : Quoted (0x22 :: (body ++ [0x22])) letters := ⟨body, spelling, rfl⟩
  dsimp only at h
  split at h
  · rename_i unknown
    obtain ⟨value, colon, h⟩ := exists_of_bind_eq_ok h
    obtain ⟨last, skip, h⟩ := exists_of_bind_eq_ok h
    cases h
    obtain ⟨_, ⟨blanks, blank, rfl⟩, front'⟩ := covers_readColon colon
    obtain ⟨_, ⟨blanks', text, blank', ignored, rfl⟩, front''⟩ := covers_skipValue skip
    have member := Member.other named (field?_eq_none_iff.mp unknown) blank blank' ignored
    refine ⟨_, none, member, ?_, rfl, by rw [front, front', front'']; simp⟩
    rintro _ _ ⟨⟩
  · rename_i field known
    obtain rfl := field?_eq_some_iff.mp known
    split at h
    · cases h
    · rename_i fresh
      obtain ⟨value, colon, h⟩ := exists_of_bind_eq_ok h
      obtain ⟨⟨text, last⟩, string, h⟩ := exists_of_bind_eq_ok h
      cases h
      obtain ⟨_, ⟨blanks, blank, rfl⟩, front'⟩ := covers_readColon colon
      obtain ⟨_, ⟨blanks', quoted, blank', given, rfl⟩, front''⟩ := takes_readString string
      have member : Member Passable _ _ := .field named blank blank' given
      refine ⟨_, _, member, ?_, rfl, by rw [front, front', front'']; simp⟩
      rintro _ _ ⟨⟩
      exact Option.not_isSome_iff_eq_none.mp fresh

/-- Every member is read from behind its first quote, when what it gives is new. -/
theorem exists_reads_readMember {text : Bytes} {member : Option (Field × String)}
    (form : Member Passable text member) :
    ∃ inner, text = 0x22 :: inner ∧ ∀ (members : Members) (rest : Bytes), members.Fresh member →
      Delimited rest → Reads (readMember members) (inner ++ rest) (members.tell member) rest := by
  cases form with
  | @field field value name blanks blanks' text named blank blank' quoted =>
    obtain ⟨body, spelling, rfl⟩ := named
    refine ⟨_, rfl, fun members rest fresh _ => ?_⟩
    have string := reads_readString_quoted blank' quoted rest
    have read := reads_readMember (fresh field value rfl) (reads_readText_spelling spelling _)
      (passes_readColon blank) string
    simpa [Members.tell] using read
  | @other letters name blanks blanks' text named unknown blank blank' value =>
    obtain ⟨body, spelling, rfl⟩ := named
    refine ⟨_, rfl, fun members rest _ delimited cursor front => ?_⟩
    obtain ⟨first, name, behind⟩ := reads_readText_spelling spelling
      (blanks ++ 0x3A :: (blanks' ++ (text ++ rest))) cursor (by simpa using front)
    obtain ⟨second, colon, behind'⟩ := passes_readColon blank first behind
    obtain ⟨stop, skip, left⟩ := passes_skipValue blank' value delimited second behind'
    refine ⟨stop, ?_, left⟩
    simp [readMember, name, field?_eq_none_iff.mpr unknown, colon, skip, Members.tell, bind,
      Except.bind, pure, Except.pure]

/-! ## Objects -/

/-- Whatever is read as the rest of an object are members. -/
theorem exists_of_readMembers {members : Members} {first : Bool} {cursor stop : Cursor}
    {entry : Entry} (h : readMembers members first cursor = .ok (entry, stop)) :
    ∃ text told, Listing (Member Passable) first text told ∧
      (∀ field, (members.get field).toList ++ given field told = [fieldText entry field]) ∧
      cursor.rest = text ++ 0x7D :: stop.rest := by
  fun_induction readMembers members first cursor with
  | case1 => cases h
  | case2 members first cursor stop name result complete =>
    cases h
    obtain ⟨blanks, blank, front⟩ := exists_of_nextName_end name
    refine ⟨blanks, [], .close blank, fun field => ?_, front⟩
    simp [Members.get_of_entry_eq_ok complete field]
  | case3 => cases h
  | case4 => cases h
  | case5 members first cursor start name more after member ih =>
    obtain ⟨comma, blanks, lead, blank, front⟩ := exists_of_nextName name
    obtain ⟨inner, told, form, fresh, rfl, behind⟩ := exists_of_readMember member
    obtain ⟨text, others, listed, once, last⟩ := ih h
    refine ⟨_, told :: others, .element lead blank form listed, fun field => ?_, ?_⟩
    · rw [given_cons, ← List.append_assoc, ← Members.get_tell fresh, once]
    · rw [front, behind, last]
      simp

/-- The members of an object are read when together they give every field once. -/
theorem reads_readMembers_of_listing {first : Bool} {text : Bytes}
    {told : List (Option (Field × String))} {entry : Entry}
    (listed : Listing (Member Passable) first text told) {members : Members}
    (once : ∀ field, (members.get field).toList ++ given field told = [fieldText entry field])
    (rest : Bytes) :
    Reads (readMembers members first) (text ++ 0x7D :: rest) entry rest := by
  induction listed generalizing members with
  | close blank =>
    refine reads_readMembers_end (reads_nextName_end blank _) (Members.entry_eq_ok fun field => ?_)
    have own := once field
    rw [given_nil, List.append_nil, Option.toList_eq_singleton_iff] at own
    exact own
  | @element first comma blanks text others member told lead blank form listed ih =>
    obtain ⟨inner, rfl, read⟩ := exists_reads_readMember form
    have fresh : members.Fresh member :=
      Members.fresh_of_length_le fun field =>
        Nat.le_of_eq (congrArg List.length (once field))
    have onward := @ih (members.tell member) fun field => by
      rw [Members.get_tell fresh, List.append_assoc, ← given_cons, once]
    have name : Reads (nextName first)
        (comma ++ (blanks ++ 0x22 :: (inner ++ (others ++ 0x7D :: rest)))) true _ :=
      reads_nextName lead blank
    have read := reads_readMembers_member name
      (read members _ fresh (delimited_listing listed .object)) onward
    simpa using read

/-! ## Lists of three texts -/

theorem exists_of_readPart {count : Nat} {cursor stop : Cursor} {value : String}
    (h : readPart count cursor = .ok (value, stop)) :
    ∃ comma blanks text, Lead (count == 0) comma ∧ Blank blanks ∧ Quoted text value ∧
      cursor.rest = comma ++ (blanks ++ (text ++ stop.rest)) := by
  rw [readPart] at h
  obtain ⟨⟨found, start⟩, next, h⟩ := exists_of_bind_eq_ok h
  dsimp only at h
  split at h
  · rename_i more
    subst more
    obtain ⟨comma, blanks, lead, blank, front⟩ := exists_of_nextElement next
    obtain ⟨_, ⟨blanks', text, blank', quoted, rfl⟩, behind⟩ := takes_readString h
    refine ⟨comma, blanks ++ blanks', text, lead, blank_append blank blank', quoted, ?_⟩
    rw [front, behind]
    simp
  · cases h

theorem reads_readPart {count : Nat} {comma blanks text : Bytes} {value : String}
    (lead : Lead (count == 0) comma) (blank : Blank blanks) (quoted : Quoted text value)
    (rest : Bytes) :
    Reads (readPart count) (comma ++ (blanks ++ (text ++ rest))) value rest := by
  intro cursor front
  have string := reads_readString_quoted blank_nil quoted rest
  obtain ⟨body, spelling, rfl⟩ := quoted
  obtain ⟨start, next, behind⟩ := reads_nextElement lead blank (by decide) (by decide) cursor front
  obtain ⟨stop, read, left⟩ := string start behind
  exact ⟨stop, by simp [readPart, next, read, bind, Except.bind], left⟩

theorem exists_of_readParts {cursor stop : Cursor} {entry : Entry}
    (h : readParts cursor = .ok (entry, stop)) :
    ∃ texts, Listing Quoted true texts [entry.directory, entry.command, entry.file] ∧
      cursor.rest = texts ++ 0x5D :: stop.rest := by
  rw [readParts] at h
  obtain ⟨⟨directory, first⟩, read, h⟩ := exists_of_bind_eq_ok h
  obtain ⟨⟨command, second⟩, read', h⟩ := exists_of_bind_eq_ok h
  obtain ⟨⟨file, third⟩, read'', h⟩ := exists_of_bind_eq_ok h
  obtain ⟨last, bracket, h⟩ := exists_of_bind_eq_ok h
  cases h
  obtain ⟨_, _, _, lead, blank, quoted, front⟩ := exists_of_readPart read
  obtain ⟨_, _, _, lead', blank', quoted', toCommand⟩ := exists_of_readPart read'
  obtain ⟨_, _, _, lead'', blank'', quoted'', toFile⟩ := exists_of_readPart read''
  obtain ⟨_, ⟨blanks, ending, rfl⟩, toBracket⟩ := covers_endList bracket
  refine ⟨_, .element lead blank quoted (.element lead' blank' quoted'
    (.element lead'' blank'' quoted'' (.close ending))), ?_⟩
  rw [front, toCommand, toFile, toBracket]
  simp

theorem reads_readParts {texts : Bytes} {entry : Entry}
    (parts : Listing Quoted true texts [entry.directory, entry.command, entry.file])
    (rest : Bytes) : Reads readParts (texts ++ 0x5D :: rest) entry rest := by
  obtain _ | ⟨lead, blank, quoted, parts⟩ := parts
  obtain _ | ⟨lead', blank', quoted', parts⟩ := parts
  obtain _ | ⟨lead'', blank'', quoted'', parts⟩ := parts
  obtain ⟨ending⟩ := parts
  intro cursor front
  simp only [List.append_assoc] at front
  obtain ⟨first, read, toCommand⟩ :=
    @reads_readPart 0 _ _ _ _ lead blank quoted _ cursor front
  obtain ⟨second, read', toFile⟩ :=
    @reads_readPart 1 _ _ _ _ lead' blank' quoted' _ first toCommand
  obtain ⟨third, read'', toBracket⟩ :=
    @reads_readPart 2 _ _ _ _ lead'' blank'' quoted'' _ second toFile
  obtain ⟨stop, bracket, left⟩ := passes_endList ending rest third toBracket
  refine ⟨stop, ?_, left⟩
  simp [readParts, read, read', read'', bracket, bind, Except.bind, pure, Except.pure]

/-! ## Entries -/

/-- Whatever is read as an entry is an element that denotes it. -/
theorem exists_of_readEntry {cursor stop : Cursor} {entry : Entry}
    (h : readEntry cursor = .ok (entry, stop)) :
    ∃ blanks text, Blank blanks ∧ Element Passable text entry ∧
      cursor.rest = blanks ++ (text ++ stop.rest) := by
  unfold readEntry at h
  dsimp only at h
  split at h
  · rename_i list
    obtain ⟨blanks, blank, front⟩ := exists_of_mark list
    obtain ⟨texts, parts, behind⟩ := exists_of_readParts h
    refine ⟨blanks, _, blank, .list parts, ?_⟩
    rw [front, behind]
    simp
  · split at h
    · rename_i object
      obtain ⟨blanks, blank, front⟩ := exists_of_mark object
      obtain ⟨text, told, listed, once, behind⟩ := exists_of_readMembers h
      refine ⟨blanks, _, blank, .object listed fun field => ?_, ?_⟩
      · have own := once field
        rwa [Members.get_none] at own
      · rw [front, behind]
        simp
    · cases h

/-- Every element is read as the entry that it denotes. An array gives its three texts by their
place, and an object by the names of its members. -/
theorem reads_readEntry {text : Bytes} {entry : Entry} (element : Element Passable text entry)
    (rest : Bytes) : Reads readEntry (text ++ rest) entry rest := by
  cases element with
  | list parts =>
    intro cursor front
    have start : cursor.skipBlank.rest = _ := Cursor.rest_skipBlank front blank_nil (by decide)
    obtain ⟨stop, read, left⟩ :=
      reads_readParts parts rest (cursor.skipBlank.skip 1) (by simp [start])
    exact ⟨stop, by simp [readEntry, start, read], left⟩
  | object listed once =>
    have members := @reads_readMembers_of_listing _ _ _ _ listed Members.none
      (fun field => by simpa using once field) rest
    simpa using reads_readEntry_object [] blank_nil members

theorem exists_cons_of_element {inText : Bytes → Prop} {text : Bytes} {entry : Entry}
    (element : Element inText text entry) :
    ∃ bracket inner, text = Bracket.opening bracket :: inner := by
  cases element with
  | list => exact ⟨.list, _, rfl⟩
  | object => exact ⟨.object, _, rfl⟩

/-- Whatever is read as the rest of the list are elements. -/
theorem exists_of_readEntries {done : Array Entry} {first : Bool} {cursor stop : Cursor}
    {entries : List Entry} (h : readEntries done first cursor = .ok (entries, stop)) :
    ∃ text more, Listing (Element Passable) first text more ∧ entries = done.toList ++ more ∧
      cursor.rest = text ++ 0x5D :: stop.rest := by
  fun_induction readEntries done first cursor with
  | case1 => cases h
  | case2 done first cursor stop next =>
    cases h
    obtain ⟨blanks, blank, front⟩ := exists_of_nextElement_end next
    exact ⟨blanks, [], .close blank, by simp, front⟩
  | case3 => cases h
  | case4 done first cursor start next entry after read ih =>
    obtain ⟨comma, blanks, lead, blank, front⟩ := exists_of_nextElement next
    obtain ⟨blanks', text, blank', element, behind⟩ := exists_of_readEntry read
    obtain ⟨others, more, listed, rfl, last⟩ := ih h
    refine ⟨_, entry :: more, .element lead (blank_append blank blank') element listed, ?_, ?_⟩
    · simp
    · rw [front, behind, last]
      simp

theorem reads_readEntries {first : Bool} {text : Bytes} {more : List Entry}
    (listed : Listing (Element Passable) first text more) (done : Array Entry) (rest : Bytes) :
    Reads (readEntries done first) (text ++ 0x5D :: rest) (done.toList ++ more) rest := by
  induction listed generalizing done with
  | close blank =>
    rw [List.append_nil]
    exact reads_readEntries_end (reads_nextElement_end _ blank _)
  | @element first comma blanks text others entry more lead blank element listed ih =>
    obtain ⟨bracket, inner, rfl⟩ := exists_cons_of_element element
    have next : Reads (nextElement first)
        (comma ++ (blanks ++ bracket.opening :: (inner ++ (others ++ 0x5D :: rest)))) true _ :=
      reads_nextElement lead blank (by cases bracket <;> rfl) (by cases bracket <;> decide)
    have onward := ih (done.push entry)
    rw [Array.toList_push, List.append_assoc] at onward
    have read := reads_readEntries_element next (reads_readEntry element _) onward
    simpa using read

/-! ## Documents -/

theorem parse_eq_ok_iff_readAll {text : Bytes} {entries : List Entry} :
    parse text = .ok entries ↔ readAll text = .ok entries := by
  rw [parse]
  cases readAll text with
  | error => exact iff_of_false (fun h => by cases h) (fun h => by cases h)
  | ok => exact ⟨fun h => by cases h; rfl, fun h => by cases h; rfl⟩

/-- Whatever is read as a database is a document. -/
theorem document_of_readAll {text : Bytes} {entries : List Entry}
    (h : readAll text = .ok entries) : Document Passable text entries := by
  unfold readAll at h
  dsimp only at h
  split at h
  · rename_i bracket
    obtain ⟨blanks, blank, front⟩ := exists_of_mark bracket
    obtain ⟨⟨all, after⟩, list, h⟩ := exists_of_bind_eq_ok h
    obtain ⟨elements, more, listed, rfl, behind⟩ := exists_of_readEntries list
    obtain ⟨blanks', blank', last⟩ := after.exists_skipBlank
    dsimp only at h
    split at h
    · rename_i ending
      cases h
      rw [List.isEmpty_iff.mp ending, List.append_nil] at last
      refine ⟨blanks, elements, blanks', blank, listed, blank', ?_⟩
      rw [← last, ← behind]
      exact front
    · cases h
  · cases h

/-- The texts that are read as a database are the documents. What stands in the texts of values that
are skipped need not be characters in either direction. -/
theorem parse_eq_ok_iff {text : Bytes} {entries : List Entry} :
    parse text = .ok entries ↔ Document Passable text entries := by
  constructor
  · intro h
    exact document_of_readAll (parse_eq_ok_iff_readAll.mp h)
  · rintro ⟨blanks, elements, blanks', blank, listed, blank', rfl⟩
    exact parse_of_reads blanks blank (reads_readEntries listed #[] blanks') blank'

end UnityBuild.Database

namespace UnityBuild.FileSystem

open Json

/-- A database file is read as a list of entries when its text denotes this list: every such text is
accepted in which all texts spell characters, and what is accepted denotes the list, but for the
texts in values that are skipped. -/
theorem readDatabase_accepts (fs : FileSystem) (path : String) (entries : List Entry) :
    (∀ text, fs.read path = .ok text → Database.Document Legible text entries →
      fs.readDatabase path = .ok entries) ∧
    (fs.readDatabase path = .ok entries ↔
      ∃ text, fs.read path = .ok text ∧ Database.Document Passable text entries) := by
  have accepts : fs.readDatabase path = .ok entries ↔
      ∃ text, fs.read path = .ok text ∧ Database.Document Passable text entries := by
    rw [readDatabase]
    rcases fs.read path with (failure | failure) | text
    · simp [Database.ofRead]
    · simp [Database.ofRead]
    · simp only [Except.ok.injEq, exists_eq_left', ← Database.parse_eq_ok_iff, Database.ofRead]
      cases Database.parse text <;> simp
  refine ⟨fun text read document => accepts.mpr ⟨text, read, ?_⟩, accepts⟩
  exact document.mono fun body ⟨letters, spelling⟩ => spelling.passable

end UnityBuild.FileSystem

namespace UnityBuild

open Json

/-- A database with an entry in either form. The members of the object stand in another order, one
name is escaped, and a value is skipped. -/
def FileSystem.handwritten : FileSystem where
  nodes :=
    [(["r"], .directory),
      (["r", "db.json"], .file (Utf8.encode "[\x7b\"x\":[-0,\x7b\x7d],\"file\":\"f\"," ++
        Utf8.encode "\"c\\u006Fmmand\":\"c\",\"directory\":\"d\"\x7d,\n[\"d\",\"c\",\"g\"]]"))]
  here := .standing ["r"]

theorem handwritten_value : Value (Utf8.encode "[-0,\x7b\x7d]") := by
  have zero : Number [0x2D, 0x30] :=
    .inr ⟨[0x30], ⟨[0x30], [], [], .inl rfl, .inl rfl, .inl rfl, rfl⟩, rfl⟩
  have empty := @Written.nested Legible .object _ (.close blank_nil)
  have more := Written.element (.more blank_nil) blank_nil .none blank_nil empty (.close blank_nil)
  have value := Written.nested (.element .first blank_nil .none blank_nil (.number zero) more)
  exact cast (congrArg Value (by decide)) value

theorem handwritten_name : Quoted (Utf8.encode "\"c\\u006Fmmand\"") Field.command.name := by
  have digits : HexNumber [0x30, 0x30, 0x36, 0x46] 0x6F :=
    @HexNumber.digits _ _ _ _ 0 0 6 15 (by decide) (by decide) (by decide) (by decide)
  have spelling : Spelling _ ['c', 'o', 'm', 'm', 'a', 'n', 'd'] :=
    .plain (by decide) (by decide) (by decide)
      (.escape (.number digits (by decide)) (.of_isLiteral (by decide)))
  exact ⟨_, spelling, by decide⟩

theorem handwritten_object :
    Database.Element Legible (Utf8.encode "\x7b\"x\":[-0,\x7b\x7d],\"file\":\"f\"," ++
      Utf8.encode "\"c\\u006Fmmand\":\"c\",\"directory\":\"d\"\x7d") ⟨"d", "c", "f"⟩ := by
  have comma := Lead.more blank_nil
  have extra := Database.Member.other (@Quoted.of_isLiteral "x" (by decide))
    (fun field => by cases field <;> decide) blank_nil blank_nil handwritten_value
  have file := @Database.Member.field Legible .file "f" _ _ _ _ (.of_isLiteral (by decide))
    blank_nil blank_nil (.of_isLiteral (by decide))
  have command := @Database.Member.field Legible .command "c" _ _ _ _ handwritten_name blank_nil
    blank_nil (.of_isLiteral (by decide))
  have directory := @Database.Member.field Legible .directory "d" _ _ _ _
    (.of_isLiteral (by decide)) blank_nil blank_nil (.of_isLiteral (by decide))
  have members := Listing.element .first blank_nil extra (.element comma blank_nil file
    (.element comma blank_nil command (.element comma blank_nil directory (.close blank_nil))))
  have element := @Database.Element.object Legible _ _ ⟨"d", "c", "f"⟩ members
    fun field => by cases field <;> rfl
  exact cast (congrArg (Database.Element Legible · ⟨"d", "c", "f"⟩) (by decide)) element

theorem handwritten_list :
    Database.Element Legible (Utf8.encode "[\"d\",\"c\",\"g\"]") ⟨"d", "c", "g"⟩ := by
  have comma := Lead.more blank_nil
  have element := @Database.Element.list Legible _ ⟨"d", "c", "g"⟩
    (.element .first blank_nil (.of_isLiteral (by decide)) (.element comma blank_nil
      (.of_isLiteral (by decide)) (.element comma blank_nil (.of_isLiteral (by decide))
        (.close blank_nil))))
  exact cast (congrArg (Database.Element Legible · ⟨"d", "c", "g"⟩) (by decide)) element

/-- Both forms of an entry are read in one database: the object by the names of its members, also
the escaped one, and the array by the places of its texts. -/
theorem handwritten_accepted :
    FileSystem.handwritten.readDatabase "db.json" =
      .ok [⟨"d", "c", "f"⟩, ⟨"d", "c", "g"⟩] := by
  have newline : Blank [0x0A] := by
    rw [Blank, List.forall_mem_singleton]
    decide
  have document : Database.Document Legible _ [⟨"d", "c", "f"⟩, ⟨"d", "c", "g"⟩] :=
    ⟨[], _, [], blank_nil, .element .first blank_nil handwritten_object
      (.element (.more blank_nil) newline handwritten_list (.close blank_nil)), blank_nil, rfl⟩
  exact (FileSystem.readDatabase_accepts _ _ _).1 _ (by with_unfolding_all rfl) document

end UnityBuild
