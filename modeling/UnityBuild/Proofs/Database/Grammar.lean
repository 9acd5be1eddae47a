import UnityBuild.Database.Reader
import UnityBuild.Proofs.Json.Grammar

/-!
# What a database may look like

The text of a database is one list, and each of its elements denotes an entry. An element is a list
of the three texts, or an object: there the member of each field occurs once, the fields come in any
order, and members of other names may stand between them with any values. Names are compared by the
characters they spell, so it does not matter how they are escaped.
-/

namespace UnityBuild.Database

open Json

/-- A member of an object, with the field and the text that it gives for an entry, if it gives one.
-/
inductive Member (inText : Bytes → Prop) : Bytes → Option (Field × String) → Prop
  | field {field : Field} {value : String} {name blanks blanks' text : Bytes}
      (named : Quoted name field.name) (blank : Blank blanks) (blank' : Blank blanks')
      (quoted : Quoted text value) :
      Member inText (name ++ (blanks ++ 0x3A :: (blanks' ++ text))) (some (field, value))
  | other {letters : String} {name blanks blanks' text : Bytes} (named : Quoted name letters)
      (unknown : ∀ field : Field, letters ≠ field.name) (blank : Blank blanks)
      (blank' : Blank blanks') (value : Written inText .value text) :
      Member inText (name ++ (blanks ++ 0x3A :: (blanks' ++ text))) none

/-- The text that a member gives for a field. -/
def given? (field : Field) : Option (Field × String) → Option String
  | some (other, value) => if other = field then some value else none
  | none => none

/-- The texts that members give for a field, in their order. -/
def given (field : Field) (members : List (Option (Field × String))) : List String :=
  members.filterMap (given? field)

def fieldText (entry : Entry) : Field → String
  | .directory => entry.directory
  | .command => entry.command
  | .file => entry.file

/-- An element of the list, and the entry that it denotes: an array of the three texts in their
order, or an object that gives each field once, among members of any other names. -/
inductive Element (inText : Bytes → Prop) : Bytes → Entry → Prop
  | list {texts : Bytes} {entry : Entry}
      (parts : Listing Quoted true texts [entry.directory, entry.command, entry.file]) :
      Element inText (0x5B :: (texts ++ [0x5D])) entry
  | object {text : Bytes} {members : List (Option (Field × String))} {entry : Entry}
      (listed : Listing (Member inText) true text members)
      (once : ∀ field, given field members = [fieldText entry field]) :
      Element inText (0x7B :: (text ++ [0x7D])) entry

/-- The text of a database, and its entries: one list with blanks around it, in which blanks may
stand wherever a value ends or begins. -/
def Document (inText : Bytes → Prop) (text : Bytes) (entries : List Entry) : Prop :=
  ∃ blanks elements blanks', Blank blanks ∧ Listing (Element inText) true elements entries ∧
    Blank blanks' ∧ text = blanks ++ 0x5B :: (elements ++ 0x5D :: blanks')

@[simp] theorem given_nil (field : Field) : given field [] = [] := rfl

@[simp] theorem given_cons (field : Field) (member : Option (Field × String))
    (members : List (Option (Field × String))) :
    given field (member :: members) = (given? field member).toList ++ given field members := by
  rw [given, List.filterMap_cons]
  cases given? field member <;> rfl

section Weaker

variable {inText other : Bytes → Prop} (weaker : ∀ body, inText body → other body)

include weaker

theorem Member.mono {text : Bytes} {told : Option (Field × String)}
    (member : Member inText text told) : Member other text told := by
  cases member with
  | field named blank blank' quoted => exact .field named blank blank' quoted
  | other named unknown blank blank' value =>
    exact .other named unknown blank blank' (value.mono weaker)

theorem Element.mono {text : Bytes} {entry : Entry} (element : Element inText text entry) :
    Element other text entry := by
  cases element with
  | list parts => exact .list parts
  | object listed once => exact .object (listed.mono fun _ _ => Member.mono weaker) once

theorem Document.mono {text : Bytes} {entries : List Entry}
    (document : Document inText text entries) : Document other text entries := by
  obtain ⟨blanks, elements, blanks', blank, listed, blank', all⟩ := document
  exact ⟨blanks, elements, blanks', blank, listed.mono fun _ _ => Element.mono weaker, blank', all⟩

end Weaker

end UnityBuild.Database
