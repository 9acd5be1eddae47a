import UnityBuild.Entry
import UnityBuild.Text.Utf8

/-!
# Writing a compilation database

A database is written as one list with each entry as an object of three members, every element on
lines of its own and two blanks deeper than its bracket. The empty list has no line of its own. A
newline ends the text.

In a text, quotes, backslashes and control characters are escaped, by a letter where one is defined
and by four hexadecimal digits otherwise. All other characters stand for themselves.
-/

namespace UnityBuild.Database

/-- The letter of a short escape. -/
def escapeLetter? (letter : Char) : Option Char :=
  if letter = '"' || letter = '\\' then some letter
  else if letter = '\x08' then some 'b'
  else if letter = '\x0C' then some 'f'
  else if letter = '\n' then some 'n'
  else if letter = '\r' then some 'r'
  else if letter = '\t' then some 't'
  else none

/-- The escape by number. Only the last two digits are needed for control characters. -/
def escapeNumber (letter : Char) : List Char :=
  ['\\', 'u', '0', '0', Nat.digitChar (letter.toNat / 16), Nat.digitChar (letter.toNat % 16)]

def encodeChar (letter : Char) : List Char :=
  match escapeLetter? letter with
  | some short => ['\\', short]
  | none => if letter.toNat < 0x20 then escapeNumber letter else [letter]

def encodeText (text : String) : List Char :=
  '"' :: text.toList.flatMap encodeChar ++ ['"']

/-- A line end, and blanks up to the given depth. -/
def newline (depth : Nat) : List Char :=
  '\n' :: List.replicate (2 * depth) ' '

/-- A member of an entry on a line of its own. -/
def encodeMember (name value : String) : List Char :=
  newline 2 ++ encodeText name ++ [':', ' '] ++ encodeText value

def encodeEntry (entry : Entry) : List Char :=
  newline 1 ++ ['\x7b'] ++ encodeMember "directory" entry.directory ++ [',']
    ++ encodeMember "command" entry.command ++ [','] ++ encodeMember "file" entry.file
    ++ newline 1 ++ ['\x7d']

def encodeAll : List Entry → List Char
  | [] => ['[', ']']
  | entry :: rest =>
    '[' :: encodeEntry entry ++ rest.flatMap (fun entry => ',' :: encodeEntry entry)
      ++ newline 0 ++ [']']

/-- The text of a database, without the newline that ends it. An empty database is a pair of
brackets, and otherwise every member of an entry has a line of its own. -/
def body (entries : List Entry) : Bytes :=
  (encodeAll entries).flatMap String.utf8EncodeChar

def render (entries : List Entry) : Bytes :=
  body entries ++ ['\n'.toUInt8]

end UnityBuild.Database
