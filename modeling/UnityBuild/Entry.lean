import UnityBuild.Path.Normal
import UnityBuild.Text.Replace

/-!
# Entries of a compilation database

An entry says which command compiles a file, and in which directory it is run. Its file is *unified*
when the base name starts with `UnifiedSource`: such a file was generated to compile several source
files at once, and includes them. Its file is *recognized* when its extension is one of the C
family's, in upper or lower case.

An entry keeps its file as text. A file that is read from a base becomes text again, which loses
nothing because the base is text as well: a base whose bytes are no characters is out of reach here.
-/

namespace UnityBuild

structure Entry where
  directory : String
  command : String
  file : String
  deriving DecidableEq, Repr, Inhabited

namespace Entry

/-- The first letters of the base name of a file that was generated to include source files. They
are compared letter by letter, and their case counts. -/
def unifiedMark : String := "UnifiedSource"

/-- The extensions of source and header files in the C family. -/
def knownExtensions : List String :=
  ["c", "cc", "cpp", "cxx", "c++", "m", "mm", "h", "hh", "hpp", "hxx"]

def baseName (entry : Entry) : String :=
  Path.baseName entry.file

def extension? (entry : Entry) : Option String :=
  Path.extension? entry.baseName

/-- The base name alone decides whether a file was generated to include others. -/
def isUnified (entry : Entry) : Bool :=
  unifiedMark.toList.isPrefixOf entry.baseName.toList

/-- The extension is one of the known ones when its ASCII letters are read in lower case. A file
without an extension is not recognized, whatever it is called. -/
def isRecognized (entry : Entry) : Bool :=
  match entry.extension? with
  | some extension =>
    knownExtensions.any fun known => known.toList == extension.toList.map Char.toLower
  | none => false

/-- The entry with its file read from a base, as it is written when the entry stays. The directory
and the command are passed on as they are. -/
def resolved (entry : Entry) (base : String) : Entry :=
  { entry with file := resolve base entry.file }

/-- The entry for a file that the entry's own file includes: the same directory, and the same
command with every mention of the old file replaced. The old file is looked for as it is spelled,
and no token has to end where it does. -/
def forInclude (entry : Entry) (base path : String) : Entry where
  directory := entry.directory
  command := Text.replace entry.command entry.file (resolve base path)
  file := resolve base path

@[simp] theorem resolved_file (entry : Entry) (base : String) :
    (entry.resolved base).file = resolve base entry.file := rfl

@[simp] theorem resolved_command (entry : Entry) (base : String) :
    (entry.resolved base).command = entry.command := rfl

@[simp] theorem resolved_directory (entry : Entry) (base : String) :
    (entry.resolved base).directory = entry.directory := rfl

@[simp] theorem forInclude_file (entry : Entry) (base path : String) :
    (entry.forInclude base path).file = resolve base path := rfl

@[simp] theorem forInclude_directory (entry : Entry) (base path : String) :
    (entry.forInclude base path).directory = entry.directory := rfl

end Entry

end UnityBuild
