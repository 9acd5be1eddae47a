import Mathlib.Data.List.Induction
import UnityBuild.Proofs.Database.Acceptance

/-!
# What is wrong with an incomplete entry

An object that leaves a field out, or gives one twice, stops the reader. A field that is given again
is noticed behind its name, so it comes before one that is missing; of the missing ones the first in
the order of their declaration is told. What follows the object is not read.

The members in front of the first repetition are read as those of a good object are. The reader then
knows what they gave, and that is all on which the fault depends.
-/

namespace UnityBuild.Json

/-- In front of this text the reader fails with a fault. -/
def Refuses {α : Type} (reader : Cursor → Except Refusal α) (before : Bytes) (fault : Fault) :
    Prop :=
  ∀ cursor : Cursor, cursor.rest = before →
    ∃ refusal, reader cursor = .error refusal ∧ refusal.fault = fault

/-- Elements of some form with more to come. The last flag tells whether the next element is the
first one. -/
inductive Begun {α : Type} (form : Bytes → α → Prop) : Bool → Bytes → List α → Bool → Prop
  | nil {first : Bool} : Begun form first [] [] first
  | element {first next : Bool} {comma blanks text rest : Bytes} {item : α} {items : List α}
      (lead : Lead first comma) (blank : Blank blanks) (element : form text item)
      (onward : Begun form false rest items next) :
      Begun form first (comma ++ (blanks ++ (text ++ rest))) (item :: items) next

section Begun

variable {α : Type} {form : Bytes → α → Prop} {first : Bool} {text : Bytes}

theorem Listing.exists_begun {items : List α} (listing : Listing form first text items) :
    ∃ begun blanks next, Begun form first begun items next ∧ Blank blanks ∧
      text = begun ++ blanks := by
  induction listing with
  | close blank => exact ⟨[], _, _, .nil, blank, rfl⟩
  | element lead blank element _ ih =>
    obtain ⟨begun, blanks, next, others, blank', rfl⟩ := ih
    exact ⟨_, blanks, next, .element lead blank element others, blank', by simp⟩

/-- A listing may be interrupted in front of each of its elements. -/
theorem Listing.exists_begun_append {front items : List α} {item : α}
    (listing : Listing form first text (front ++ item :: items)) :
    ∃ begun next comma blanks element others, Begun form first begun front next ∧
      Lead next comma ∧ Blank blanks ∧ form element item ∧ Listing form false others items ∧
      text = begun ++ (comma ++ (blanks ++ (element ++ others))) := by
  induction front generalizing first text with
  | nil =>
    obtain _ | ⟨lead, blank, element, onward⟩ := listing
    exact ⟨[], first, _, _, _, _, .nil, lead, blank, element, onward, rfl⟩
  | cons _ front ih =>
    obtain _ | ⟨lead, blank, element, onward⟩ := listing
    obtain ⟨begun, next, comma, blanks, text, others, front, lead', blank', element', rest, rfl⟩ :=
      ih onward
    exact ⟨_, next, comma, blanks, text, others, .element lead blank element front, lead', blank',
      element', rest, by simp⟩

theorem Begun.delimited {items : List α} {next : Bool} {rest : Bytes}
    (begun : Begun form false text items next) (ends : next = false → Delimited rest) :
    Delimited (text ++ rest) := by
  cases begun with
  | nil => exact ends rfl
  | element lead =>
    rw [List.append_assoc]
    exact delimited_comma lead

end Begun

end UnityBuild.Json

namespace UnityBuild.Database

open Json

/-! ## What is told about a field -/

def fields : List Field := [.directory, .command, .file]

/-- The field is the first one declared that no member gives. -/
def FirstAbsent (told : List (Option (Field × String))) (field : Field) : Prop :=
  fields.find? (fun field => (given field told).isEmpty) = some field

/-- The field is given by the first member whose field was given before. -/
def FirstRepeated (told : List (Option (Field × String))) (field : Field) : Prop :=
  ∃ front value rest, told = front ++ some (field, value) :: rest ∧ given field front ≠ [] ∧
    ∀ other, (given other front).length ≤ 1

theorem given_append (field : Field) (told more : List (Option (Field × String))) :
    given field (told ++ more) = given field told ++ given field more := by
  rw [given, List.filterMap_append]
  rfl

theorem exists_firstAbsent {told : List (Option (Field × String))} {field : Field}
    (absent : given field told = []) : ∃ field, FirstAbsent told field := by
  apply Option.isSome_iff_exists.mp
  rw [List.find?_isSome]
  exact ⟨field, by cases field <;> decide, by rw [absent]; rfl⟩

/-- Where a field is given twice, one member is the first to repeat. -/
theorem exists_firstRepeated {told : List (Option (Field × String))} {field : Field}
    (again : 1 < (given field told).length) : ∃ field, FirstRepeated told field := by
  induction told using List.reverseRecOn generalizing field with
  | nil => simp at again
  | append_singleton front member ih =>
    by_cases earlier : ∃ other, 1 < (given other front).length
    · obtain ⟨other, twice⟩ := earlier
      obtain ⟨first, start, value, rest, rfl, known, single⟩ := ih twice
      exact ⟨first, start, value, rest ++ [member], by simp, known, single⟩
    · have single : ∀ other, (given other front).length ≤ 1 := by
        intro other
        exact Nat.le_of_not_lt fun twice => earlier ⟨other, twice⟩
      rw [given_append, given_cons, given_nil, List.append_nil, List.length_append] at again
      have before := single field
      -- The last member has to give this field, and a member in front of it gave it.
      match member with
      | none => simp [given?] at again; omega
      | some (other, value) =>
        by_cases same : other = field
        · subst same
          refine ⟨other, front, value, [], rfl, ?_, single⟩
          intro nothing
          simp [given?, nothing] at again
        · simp [given?, same] at again
          omega

/-! ## Readers -/

variable {before middle behind : Bytes} {fault : Fault}

namespace Members

/-- What is missing among the members read is the first field declared that they lack. -/
theorem entry_eq_error {members : Members} {field : Field}
    (absent : fields.find? (fun field => (members.get field).toList.isEmpty) = some field) :
    members.entry = .error field := by
  obtain ⟨directory, command, file⟩ := members
  cases directory <;> cases command <;> cases file <;> simp_all [fields, get, Members.entry]

end Members

/-- A member whose field was read is refused, whatever its value is. -/
theorem refuses_readMember {members : Members} {field : Field}
    (known : (members.get field).isSome) (name : Reads readText before field.name behind) :
    Refuses (readMember members) before (.repeated field) := by
  intro cursor front
  obtain ⟨stop, named, _⟩ := name cursor front
  refine ⟨(closeIf .object stop).here (.repeated field), ?_, rfl⟩
  simp [readMember, named, field?_name, known, bind, Except.bind]

theorem refuses_readMembers {members : Members} {first : Bool}
    (name : Reads (nextName first) before true middle)
    (member : Refuses (readMember members) middle fault) :
    Refuses (readMembers members first) before fault := by
  intro cursor front
  obtain ⟨start, found, toMember⟩ := name cursor front
  obtain ⟨refusal, refused, same⟩ := member start toMember
  refine ⟨refusal, ?_, same⟩
  rw [readMembers_eq, found]
  simp only [refused]

theorem refuses_readMembers_member {members more : Members} {first : Bool}
    (name : Reads (nextName first) before true middle)
    (member : Reads (readMember members) middle more behind)
    (rest : Refuses (readMembers more false) behind fault) :
    Refuses (readMembers members first) before fault := by
  intro cursor front
  obtain ⟨next, toRest, onward⟩ := exists_readMembers_eq name member front
  rw [onward]
  exact rest next toRest

/-- Where the members end, a field that is missing is told. -/
theorem refuses_readMembers_end {members : Members} {first : Bool} {field : Field}
    (name : Reads (nextName first) before false behind)
    (absent : members.entry = .error field) :
    Refuses (readMembers members first) before (.missing field) := by
  intro cursor front
  obtain ⟨stop, found, _⟩ := name cursor front
  refine ⟨(closeIf .object stop).here (.missing field), ?_, rfl⟩
  rw [readMembers_eq, found]
  simp only [absent]

theorem refuses_readEntry (members : Refuses (readMembers .none true) before fault) :
    Refuses readEntry (0x7B :: before) fault := by
  intro cursor front
  have start : cursor.skipBlank.rest = _ := Cursor.rest_skipBlank front blank_nil (by decide)
  obtain ⟨refusal, refused, same⟩ := members (cursor.skipBlank.skip 1) (by simp [start])
  exact ⟨refusal, by simp [readEntry, start, refused], same⟩

theorem refuses_readEntries {done : Array Entry} {first : Bool}
    (next : Reads (nextElement first) before true middle)
    (element : Refuses readEntry middle fault) :
    Refuses (readEntries done first) before fault := by
  intro cursor front
  obtain ⟨start, found, toEntry⟩ := next cursor front
  obtain ⟨refusal, refused, same⟩ := element start toEntry
  refine ⟨refusal, ?_, same⟩
  rw [readEntries_eq, found]
  simp only [refused]

theorem refuses_readEntries_element {done : Array Entry} {first : Bool} {entry : Entry}
    (next : Reads (nextElement first) before true middle)
    (element : Reads readEntry middle entry behind)
    (rest : Refuses (readEntries (done.push entry) false) behind fault) :
    Refuses (readEntries done first) before fault := by
  intro cursor front
  obtain ⟨stop, toRest, onward⟩ := exists_readEntries_eq next element front
  rw [onward]
  exact rest stop toRest

theorem exists_parse_of_refuses {blanks : Bytes} (blank : Blank blanks)
    (list : Refuses (readEntries #[] true) before fault) :
    ∃ position, parse (blanks ++ 0x5B :: before) = .error ⟨fault, position⟩ := by
  have front : (Cursor.start (blanks ++ 0x5B :: before)).rest = blanks ++ 0x5B :: before := rfl
  have start := Cursor.rest_skipBlank front blank (by decide)
  obtain ⟨refusal, refused, rfl⟩ :=
    list ((Cursor.start (blanks ++ 0x5B :: before)).skipBlank.skip 1) (by simp [start])
  have all : readAll (blanks ++ 0x5B :: before) = .error refusal := by
    simp [readAll, start, refused, bind, Except.bind]
  rw [parse, all]
  exact ⟨_, rfl⟩

/-! ## Objects and lists -/

/-- Members that give no field twice are read, and the reader then knows what they gave. -/
theorem refuses_readMembers_of_begun {first next : Bool} {text rest : Bytes}
    {told : List (Option (Field × String))} (begun : Begun (Member Passable) first text told next)
    {members : Members}
    (single : ∀ field, ((members.get field).toList ++ given field told).length ≤ 1)
    (ends : next = false → Delimited rest)
    (onward : ∀ more : Members,
      (∀ field, (more.get field).toList = (members.get field).toList ++ given field told) →
        Refuses (readMembers more next) rest fault) :
    Refuses (readMembers members first) (text ++ rest) fault := by
  induction begun generalizing members with
  | nil => exact onward members fun field => by simp
  | @element first next comma blanks text others member told lead blank form begun ih =>
    obtain ⟨inner, rfl, read⟩ := exists_reads_readMember form
    have fresh : members.Fresh member := Members.fresh_of_length_le single
    have tell (field : Field) : ((members.tell member).get field).toList ++ given field told =
        (members.get field).toList ++ given field (member :: told) := by
      rw [Members.get_tell fresh, List.append_assoc, ← given_cons]
    have name : Reads (nextName first)
        (comma ++ (blanks ++ 0x22 :: (inner ++ (others ++ rest)))) true _ :=
      reads_nextName lead blank
    have refused := refuses_readMembers_member name (read members _ fresh (begun.delimited ends))
      (ih (fun field => by rw [tell]; exact single field) ends
        fun more known => onward more fun field => by rw [known, tell])
    simpa using refused

/-- An object that lacks a field and repeats none is refused for the field. -/
theorem refuses_readMembers_missing {text : Bytes} {told : List (Option (Field × String))}
    (listed : Listing (Member Passable) true text told)
    (single : ∀ field, (given field told).length ≤ 1) {field : Field}
    (absent : FirstAbsent told field) (rest : Bytes) :
    Refuses (readMembers .none true) (text ++ 0x7D :: rest) (.missing field) := by
  obtain ⟨begun, blanks, next, front, blank, rfl⟩ := listed.exists_begun
  rw [List.append_assoc]
  apply refuses_readMembers_of_begun front
  · intro field
    rw [Members.get_none]
    exact single field
  · intro _
    exact delimited_closing blank .object
  · intro more known
    apply refuses_readMembers_end (reads_nextName_end blank next)
    apply Members.entry_eq_error
    simp only [known, Members.get_none]
    exact absent

/-- An object is refused for the first field that it repeats. -/
theorem refuses_readMembers_repeated {text : Bytes} {told : List (Option (Field × String))}
    (listed : Listing (Member Passable) true text told) {field : Field}
    (again : FirstRepeated told field) (rest : Bytes) :
    Refuses (readMembers .none true) (text ++ 0x7D :: rest) (.repeated field) := by
  obtain ⟨front, value, others, rfl, known, single⟩ := again
  obtain ⟨begun, next, comma, blanks, member, more, start, lead, blank, form, _, rfl⟩ :=
    listed.exists_begun_append
  obtain ⟨⟨body, spelling, rfl⟩, _, _, _⟩ := form
  simp only [List.append_assoc, List.cons_append]
  apply refuses_readMembers_of_begun start
  · intro field
    rw [Members.get_none]
    exact single field
  · rintro rfl
    exact delimited_comma lead
  · intro now told
    apply refuses_readMembers (reads_nextName lead blank)
    apply refuses_readMember _ (reads_readText_spelling spelling _)
    rw [Option.isSome_iff_ne_none, ne_eq, ← Option.toList_eq_nil_iff, told, Members.get_none]
    exact known

/-- The fault of an object depends on what its members give, and not on what follows it. -/
theorem exists_refuses_of_incomplete {told : List (Option (Field × String))}
    (incomplete : ∃ field, (given field told).length ≠ 1) :
    ∃ fault : Fault, fault.category = .data ∧
      ((∀ field, (given field told).length ≤ 1) →
        ∃ field, FirstAbsent told field ∧ fault = .missing field) ∧
      ((∃ field, 1 < (given field told).length) →
        ∃ field, FirstRepeated told field ∧ fault = .repeated field) ∧
      ∀ text rest, Listing (Member Passable) true text told →
        Refuses (readMembers .none true) (text ++ 0x7D :: rest) fault := by
  by_cases twice : ∃ field, 1 < (given field told).length
  · obtain ⟨_, twice'⟩ := twice
    obtain ⟨field, again⟩ := exists_firstRepeated twice'
    refine ⟨.repeated field, rfl, fun single => ?_, fun _ => ⟨field, again, rfl⟩, ?_⟩
    · exact absurd twice' (Nat.not_lt.mpr (single _))
    · intro text rest listed
      exact refuses_readMembers_repeated listed again rest
  · have single : ∀ field, (given field told).length ≤ 1 := by
      intro field
      exact Nat.le_of_not_lt fun more => twice ⟨field, more⟩
    obtain ⟨lacking, other⟩ := incomplete
    have nothing : given lacking told = [] := by
      apply List.eq_nil_of_length_eq_zero
      have := single lacking
      omega
    obtain ⟨field, absent⟩ := exists_firstAbsent nothing
    refine ⟨.missing field, rfl, fun _ => ⟨field, absent, rfl⟩, fun again => ?_, ?_⟩
    · exact absurd again twice
    · intro text rest listed
      exact refuses_readMembers_missing listed single absent rest

/-- Elements that are read are followed by what comes next. -/
theorem refuses_readEntries_of_begun {first next : Bool} {text rest : Bytes} {entries : List Entry}
    (begun : Begun (Element Passable) first text entries next)
    (onward : ∀ done, Refuses (readEntries done next) rest fault) (done : Array Entry) :
    Refuses (readEntries done first) (text ++ rest) fault := by
  induction begun generalizing done with
  | nil => exact onward done
  | @element first next comma blanks text others entry entries lead blank element _ ih =>
    obtain ⟨bracket, inner, rfl⟩ := exists_cons_of_element element
    have more : Reads (nextElement first)
        (comma ++ (blanks ++ bracket.opening :: (inner ++ (others ++ rest)))) true _ :=
      reads_nextElement lead blank (by cases bracket <;> rfl) (by cases bracket <;> decide)
    have refused := refuses_readEntries_element more (reads_readEntry element _)
      (ih onward (done.push entry))
    simpa using refused

/-! ## Documents -/

/-- The front of a database, up to the end of an object with the given members. -/
def Front (text : Bytes) (told : List (Option (Field × String))) : Prop :=
  ∃ blanks elements records next comma blanks' members, Blank blanks ∧
    Begun (Element Passable) true elements records next ∧ Lead next comma ∧ Blank blanks' ∧
    Listing (Member Passable) true members told ∧
    text = blanks ++ 0x5B :: (elements ++ (comma ++ (blanks' ++ 0x7B :: (members ++ [0x7D]))))

/-- A database is refused for the first object in it that is. -/
theorem exists_parse_of_front {text : Bytes} {told : List (Option (Field × String))}
    (front : Front text told)
    (refused : ∀ members rest, Listing (Member Passable) true members told →
      Refuses (readMembers .none true) (members ++ 0x7D :: rest) fault) (tail : Bytes) :
    ∃ position, parse (text ++ tail) = .error ⟨fault, position⟩ := by
  obtain ⟨blanks, elements, records, next, comma, blanks', members, blank, begun, lead, blank',
    listed, rfl⟩ := front
  have element := refuses_readEntry (refused members tail listed)
  have more : Reads (nextElement next)
      (comma ++ (blanks' ++ 0x7B :: (members ++ 0x7D :: tail))) true _ :=
    reads_nextElement lead blank' (by decide) (by decide)
  have list := refuses_readEntries_of_begun begun
    (fun done => refuses_readEntries more element) #[]
  simpa using exists_parse_of_refuses blank list

end UnityBuild.Database

namespace UnityBuild.FileSystem

open Json

/-- The failure to read a database tells its path and the phrase of the fault. -/
theorem readDatabase_of_refused {fs : FileSystem} {path : String} {text : Bytes} {fault : Fault}
    (read : fs.read path = .ok text)
    (refused : ∃ position, Database.parse text = .error ⟨fault, position⟩) :
    ∃ complaint place,
      fs.readDatabase path = .error ⟨[.parseDatabase path], .malformed complaint⟩ ∧
      complaint.fault = fault ∧ complaint.message = fault.phrase ++ " at line " ++ place := by
  obtain ⟨position, refused⟩ := refused
  refine ⟨⟨fault, position⟩, toString position.line ++ " column " ++ toString position.column,
    ?_, rfl, ?_⟩
  · rw [readDatabase, read, Database.ofRead, refused]
  · simp only [Complaint.message, String.append_assoc]

/-- A database in which an object, behind entries that are right, leaves a field out or gives one
twice is no database, whatever follows the object. It is refused with the message that the object
deserves. -/
theorem readDatabase_of_incomplete {text : Bytes} {told : List (Option (Field × String))}
    (front : Database.Front text told)
    (incomplete : ∃ field, (Database.given field told).length ≠ 1) :
    ∃ phrase : String,
      ((∀ field, (Database.given field told).length ≤ 1) →
        ∃ field, Database.FirstAbsent told field ∧
          phrase = "missing field `" ++ field.name ++ "`") ∧
      ((∃ field, 1 < (Database.given field told).length) →
        ∃ field, Database.FirstRepeated told field ∧
          phrase = "duplicate field `" ++ field.name ++ "`") ∧
      ∀ (fs : FileSystem) (path : String) (tail : Bytes), fs.read path = .ok (text ++ tail) →
        ∃ complaint place,
          fs.readDatabase path = .error ⟨[.parseDatabase path], .malformed complaint⟩ ∧
          complaint.fault.category = .data ∧
          complaint.message = phrase ++ " at line " ++ place := by
  obtain ⟨fault, data, missing, repeated, refused⟩ :=
    Database.exists_refuses_of_incomplete incomplete
  refine ⟨fault.phrase, fun single => ?_, fun twice => ?_, fun fs path tail read => ?_⟩
  · obtain ⟨field, absent, rfl⟩ := missing single
    exact ⟨field, absent, rfl⟩
  · obtain ⟨field, again, rfl⟩ := repeated twice
    exact ⟨field, again, rfl⟩
  · obtain ⟨complaint, place, failed, rfl, message⟩ :=
      readDatabase_of_refused read (Database.exists_parse_of_front front refused tail)
    exact ⟨complaint, place, failed, data, message⟩

end UnityBuild.FileSystem

namespace UnityBuild

open Json

/-- A database with an entry, an object without a directory, and what is no JSON. -/
def FileSystem.unfinished : FileSystem where
  nodes :=
    [(["r"], .directory),
      (["r", "db.json"], .file (Utf8.encode "[\x7b\"x\":[-0,\x7b\x7d],\"file\":\"f\"," ++
        Utf8.encode "\"c\\u006Fmmand\":\"c\",\"directory\":\"d\"\x7d," ++
        Utf8.encode "\x7b\"file\":\"g\",\"c\\u006Fmmand\":\"c\"\x7d :-("))]
  here := .standing ["r"]

def unfinishedMembers : List (Option (Field × String)) :=
  [some (.file, "g"), some (.command, "c")]

theorem unfinished_front :
    Database.Front (Utf8.encode "[\x7b\"x\":[-0,\x7b\x7d],\"file\":\"f\"," ++
        Utf8.encode "\"c\\u006Fmmand\":\"c\",\"directory\":\"d\"\x7d," ++
        Utf8.encode "\x7b\"file\":\"g\",\"c\\u006Fmmand\":\"c\"\x7d") unfinishedMembers := by
  have comma := Lead.more blank_nil
  have entry := handwritten_object.mono fun body ⟨letters, spelling⟩ => spelling.passable
  have file := @Database.Member.field Passable .file "g" _ _ _ _ (.of_isLiteral (by decide))
    blank_nil blank_nil (.of_isLiteral (by decide))
  have command := @Database.Member.field Passable .command "c" _ _ _ _ handwritten_name blank_nil
    blank_nil (.of_isLiteral (by decide))
  have members := Listing.element .first blank_nil file
    (.element comma blank_nil command (.close blank_nil))
  exact ⟨[], _, _, _, _, [], _, blank_nil, .element .first blank_nil entry .nil, comma, blank_nil,
    members, by decide⟩

/-- The object without a directory is refused for the field that it leaves out. What stands behind
it is no JSON, but it is never read. -/
theorem unfinished_refused :
    ∃ complaint place,
      FileSystem.unfinished.readDatabase "db.json" =
        .error ⟨[.parseDatabase "db.json"], .malformed complaint⟩ ∧
      complaint.fault.category = .data ∧
      complaint.message = "missing field `directory`" ++ " at line " ++ place := by
  have single : ∀ field, (Database.given field unfinishedMembers).length ≤ 1 := by
    intro field
    cases field <;> decide
  obtain ⟨phrase, missing, _, refused⟩ :=
    FileSystem.readDatabase_of_incomplete unfinished_front ⟨.directory, by decide⟩
  obtain ⟨field, absent, rfl⟩ := missing single
  obtain rfl : Field.directory = field := Option.some.inj absent
  exact refused _ _ (Utf8.encode " :-(") (by with_unfolding_all rfl)

end UnityBuild
