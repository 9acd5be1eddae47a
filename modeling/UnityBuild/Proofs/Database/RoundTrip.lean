import Mathlib.Tactic.SplitIfs
import UnityBuild.Database.Writer
import UnityBuild.Proofs.Database.Reading
import UnityBuild.Proofs.Json.Literal

/-!
# Reading a written database

Every character of a text is written in a form that spells it: plainly, or as an escape by letter or
by number. So a text is read back from its quotes, a member from its line, an entry from its members
and the database from its entries. The reader never looks past what was written for it, and each
rule holds with any bytes behind.
-/

namespace UnityBuild.Database

open Json

/-! ## Texts -/

/-- Short escapes are written with the letters that they are read by. -/
theorem shortEscape?_of_escapeLetter? {letter short : Char}
    (h : escapeLetter? letter = some short) :
    shortEscape? (UInt8.ofNat short.toNat) = some (UInt8.ofNat letter.toNat) ∧
      short.toNat < 0x80 ∧ letter.toNat < 0x80 := by
  unfold escapeLetter? at h
  split_ifs at h with same backspace feed line carriage tab
  · cases h
    simp only [Bool.or_eq_true, decide_eq_true_eq] at same
    rcases same with rfl | rfl <;> decide
  all_goals
    cases h
    subst_vars
    decide

theorem spells_escapeLetter {letter short : Char} (h : escapeLetter? letter = some short) :
    Spells (Utf8.bytes ['\\', short]) (String.utf8EncodeChar letter) := by
  obtain ⟨read, ascii, ascii'⟩ := shortEscape?_of_escapeLetter? h
  rw [Utf8.utf8EncodeChar_of_one ascii', Utf8.bytes_cons, Utf8.bytes_cons,
    Utf8.utf8EncodeChar_of_one ascii]
  exact .escape fun rest => reads_readEscaped_short rest read

/-- The digits of an escape by number spell the number of the control character. -/
theorem hexNumber?_escapeNumber : ∀ number < 0x20,
    hexNumber? [0x30, 0x30, UInt8.ofNat (Nat.digitChar (number / 16)).toNat,
      UInt8.ofNat (Nat.digitChar (number % 16)).toNat] = some number := by
  decide

theorem toNat_digitChar_lt : ∀ digit < 16, (Nat.digitChar digit).toNat < 0x80 := by
  decide

theorem spells_escapeNumber {letter : Char} (control : letter.toNat < 0x20) :
    Spells (Utf8.bytes (escapeNumber letter)) (String.utf8EncodeChar letter) := by
  have upper := toNat_digitChar_lt (letter.toNat / 16) (by omega)
  have lower := toNat_digitChar_lt (letter.toNat % 16) (by omega)
  have whole : Char.ofNat letter.toNat = letter := Char.ofNat_toNat letter
  rw [escapeNumber]
  simp only [Utf8.bytes_cons, Utf8.bytes_nil, Utf8.utf8EncodeChar_of_one upper,
    Utf8.utf8EncodeChar_of_one lower]
  refine .escape fun rest => ?_
  have read := reads_readEscaped_number rest
    (hexNumber?_escapeNumber letter.toNat control) (by simp [isTrailing]; omega)
    (by simp [isLeading]; omega)
  rwa [whole] at read

theorem plain_of_ascii : ∀ number < 0x80, escapeLetter? (Char.ofNat number) = .none →
    ¬ number < 0x20 → Plain (UInt8.ofNat number) := by
  decide

/-- Characters that need no escape are plain in all their bytes. -/
theorem plain_of_mem_utf8EncodeChar {letter : Char} (long : escapeLetter? letter = .none)
    (visible : ¬ letter.toNat < 0x20) {byte : UInt8}
    (member : byte ∈ String.utf8EncodeChar letter) : Plain byte := by
  by_cases ascii : letter.toNat < 0x80
  · rw [Utf8.utf8EncodeChar_of_one ascii, List.mem_singleton] at member
    rw [← Char.ofNat_toNat letter] at long
    exact member ▸ plain_of_ascii letter.toNat ascii long visible
  · exact plain_of_le (Utf8.le_of_mem_utf8EncodeChar (Nat.le_of_not_lt ascii) member)

theorem spells_encodeChar (letter : Char) :
    Spells (Utf8.bytes (encodeChar letter)) (String.utf8EncodeChar letter) := by
  rw [encodeChar]
  cases escaped : escapeLetter? letter with
  | some short => exact spells_escapeLetter escaped
  | none =>
    by_cases control : letter.toNat < 0x20
    · simp only [control, if_true]
      exact spells_escapeNumber control
    · simp only [control, if_false, Utf8.bytes_cons, Utf8.bytes_nil, List.append_nil]
      exact .plain fun byte member => plain_of_mem_utf8EncodeChar escaped control member

/-- What is written for a text behind its opening quote, with more behind it. -/
def written (text : String) (more : Bytes) : Bytes :=
  Utf8.bytes (text.toList.flatMap encodeChar) ++ 0x22 :: more

theorem written_append (text : String) (more others : Bytes) :
    written text more ++ others = written text (more ++ others) := by
  simp [written]

theorem bytes_encodeText (text : String) :
    Utf8.bytes (encodeText text) = 0x22 :: written text [] := by
  rw [encodeText, Utf8.bytes_append]
  rfl

theorem reads_readText_written (text : String) (more : Bytes) :
    Reads readText (written text more) text more := by
  have pieces : Spells (Utf8.bytes (text.toList.flatMap encodeChar)) (Utf8.bytes text.toList) := by
    rw [Utf8.bytes, List.flatMap_assoc]
    exact .flatMap fun letter _ => spells_encodeChar letter
  have read := reads_readText more pieces
  rwa [String.ofList_toList] at read

/-! ## Members and entries -/

theorem blank_newline (depth : Nat) : Blank (Utf8.bytes (newline depth)) := by
  intro byte member
  obtain ⟨letter, among, inside⟩ := List.mem_flatMap.mp member
  rw [newline, List.mem_cons, List.mem_replicate] at among
  rcases among with rfl | ⟨-, rfl⟩
  · rw [List.mem_singleton.mp inside]
    decide
  · rw [List.mem_singleton.mp inside]
    decide

theorem bytes_encodeMember (name value : String) :
    Utf8.bytes (encodeMember name value) =
      Utf8.bytes (newline 2) ++
        0x22 :: written name (0x3A :: 0x20 :: 0x22 :: written value []) := by
  have colon : String.utf8EncodeChar ':' = [0x3A] := rfl
  have blank : String.utf8EncodeChar ' ' = [0x20] := rfl
  simp only [encodeMember, Utf8.bytes_append, Utf8.bytes_cons, colon, blank, bytes_encodeText,
    List.append_assoc, List.cons_append, List.nil_append, written_append]

theorem reads_readMember_written {members : Members} (field : Field)
    (fresh : members.get field = .none) (value : String) (more : Bytes) :
    Reads (readMember members)
      (written field.name (0x3A :: 0x20 :: 0x22 :: written value more))
      (members.set field value) more := by
  have colon : Passes readColon (0x3A :: 0x20 :: 0x22 :: written value more)
      (0x20 :: 0x22 :: written value more) := passes_readColon blank_nil
  have blank : Blank [0x20] := by
    rw [Blank, List.forall_mem_singleton]
    decide
  have string : Reads readString (0x20 :: 0x22 :: written value more) value more :=
    reads_readString blank (reads_readText_written value more)
  exact reads_readMember fresh (reads_readText_written field.name _) colon string

/-- What is written for an entry behind its bracket, with more behind it. -/
def writtenEntry (entry : Entry) (more : Bytes) : Bytes :=
  Utf8.bytes (encodeMember "directory" entry.directory) ++
    0x2C :: (Utf8.bytes (encodeMember "command" entry.command) ++
      0x2C :: (Utf8.bytes (encodeMember "file" entry.file) ++
        (Utf8.bytes (newline 1) ++ 0x7D :: more)))

theorem writtenEntry_append (entry : Entry) (more others : Bytes) :
    writtenEntry entry more ++ others = writtenEntry entry (more ++ others) := by
  simp [writtenEntry]

theorem bytes_encodeEntry (entry : Entry) :
    Utf8.bytes (encodeEntry entry) =
      Utf8.bytes (newline 1) ++ 0x7B :: writtenEntry entry [] := by
  have opening : String.utf8EncodeChar '\x7b' = [0x7B] := rfl
  have comma : String.utf8EncodeChar ',' = [0x2C] := rfl
  have closing : String.utf8EncodeChar '\x7d' = [0x7D] := rfl
  simp only [encodeEntry, writtenEntry, Utf8.bytes_append, Utf8.bytes_cons, Utf8.bytes_nil, opening,
    comma, closing, List.append_assoc, List.cons_append, List.nil_append]

theorem reads_readEntry_written (entry : Entry) (more : Bytes) :
    Reads readEntry (0x7B :: writtenEntry entry more) entry more := by
  have ending : Reads (readMembers ⟨some entry.directory, some entry.command, some entry.file⟩
      false) (Utf8.bytes (newline 1) ++ 0x7D :: more) entry more :=
    reads_readMembers_end (reads_nextName_end (blank_newline 1) false) rfl
  refine reads_readEntry_object [] blank_nil ?_
  simp only [writtenEntry, bytes_encodeMember, List.append_assoc, List.cons_append, written_append,
    List.nil_append]
  -- The members are written in the order in which they stand in an entry.
  refine reads_readMembers_member (reads_nextName_first (blank_newline 2))
    (reads_readMember_written .directory rfl entry.directory _) ?_
  refine reads_readMembers_member (reads_nextName_more [] blank_nil (blank_newline 2))
    (reads_readMember_written .command rfl entry.command _) ?_
  exact reads_readMembers_member (reads_nextName_more [] blank_nil (blank_newline 2))
    (reads_readMember_written .file rfl entry.file _) ending

/-! ## Databases -/

/-- What is written for the entries behind the first one, with the end of the list. -/
def writtenEntries (entries : List Entry) (more : Bytes) : Bytes :=
  Utf8.bytes (entries.flatMap fun entry => ',' :: encodeEntry entry) ++
    (Utf8.bytes (newline 0) ++ 0x5D :: more)

theorem writtenEntries_cons (entry : Entry) (entries : List Entry) (more : Bytes) :
    writtenEntries (entry :: entries) more =
      0x2C :: (Utf8.bytes (newline 1) ++
        0x7B :: writtenEntry entry (writtenEntries entries more)) := by
  have comma : String.utf8EncodeChar ',' = [0x2C] := rfl
  simp only [writtenEntries, List.flatMap_cons, List.cons_append, Utf8.bytes_cons,
    Utf8.bytes_append, comma, bytes_encodeEntry, List.append_assoc, List.nil_append,
    writtenEntry_append]

theorem reads_readEntries_written (done : Array Entry) (entries : List Entry) (more : Bytes) :
    Reads (readEntries done false) (writtenEntries entries more) (done.toList ++ entries) more := by
  induction entries generalizing done with
  | nil =>
    rw [List.append_nil]
    exact reads_readEntries_end (reads_nextElement_end _ (blank_newline 0) false)
  | cons entry entries ih =>
    have others := ih (done.push entry)
    rw [Array.toList_push, List.append_assoc] at others
    rw [writtenEntries_cons]
    exact reads_readEntries_element
      (reads_nextElement_more [] blank_nil (blank_newline 1) (by decide) (by decide))
      (reads_readEntry_written entry _) others

theorem render_cons (entry : Entry) (entries : List Entry) :
    render (entry :: entries) =
      0x5B :: (Utf8.bytes (newline 1) ++
        0x7B :: writtenEntry entry (writtenEntries entries [0x0A])) := by
  have opening : String.utf8EncodeChar '[' = [0x5B] := rfl
  have closing : String.utf8EncodeChar ']' = [0x5D] := rfl
  have text : render (entry :: entries) = Utf8.bytes (encodeAll (entry :: entries)) ++ [0x0A] := rfl
  simp only [text, encodeAll, writtenEntries, Utf8.bytes_append, Utf8.bytes_cons, Utf8.bytes_nil,
    opening, closing, bytes_encodeEntry, List.append_assoc, List.cons_append, List.nil_append,
    writtenEntry_append]

/-- Whatever is written is read back. The entries may have any texts, since the writer escapes what
cannot stand between quotes and the reader takes every escape back. -/
theorem parse_render (entries : List Entry) : parse (render entries) = .ok entries := by
  have ending : Blank [0x0A] := by
    rw [Blank, List.forall_mem_singleton]
    decide
  cases entries with
  | nil =>
    have list : Reads (readEntries #[] true) [0x5D, 0x0A] [] [0x0A] :=
      reads_readEntries_end (reads_nextElement_end [] blank_nil true)
    exact parse_of_reads [] blank_nil list ending
  | cons entry entries =>
    rw [render_cons]
    refine parse_of_reads [] blank_nil ?_ ending
    exact reads_readEntries_element
      (reads_nextElement_first (blank_newline 1) (by decide) (by decide))
      (reads_readEntry_written entry _) (reads_readEntries_written #[entry] entries _)

end UnityBuild.Database
