/-!
# Local includes

A local include is `#include`, one blank, and a path between double quotes that are closed on the
same line. The search is textual: comments and conditions are not interpreted.

The scan works on any alphabet that spells the marks, so that the same scan runs on characters and
on bytes. It goes from left to right. Where an include starts, the scan goes on behind its closing
quote; everywhere else it goes on with the next letter.
-/

namespace UnityBuild.Include

/-- The marks of an include in some alphabet: the text that opens it, the quote that closes it, and
the letters that end a line before it is closed. -/
structure Marks (α : Type) where
  opening : List α
  quote : α
  lineEnds : List α

variable {α : Type} [BEq α]

/-- The letters that a captured path may hold: all but the quote that closes it and the ends of a
line. Blanks and backslashes are letters like any other. -/
def Marks.admits (marks : Marks α) (letter : α) : Bool :=
  letter != marks.quote && !marks.lineEnds.contains letter

/-- The path that the text captures at its very beginning, if an include begins there and is closed
on its line. The path may be empty. -/
def Marks.capture? (marks : Marks α) (text : List α) : Option (List α) :=
  if marks.opening.isPrefixOf text then
    let body := text.drop marks.opening.length
    if (body.dropWhile marks.admits).head? == some marks.quote then
      some (body.takeWhile marks.admits)
    else none
  else none

/-- The captured paths of a text, of which the first `skip` letters belong to an earlier include.
Nothing is looked for inside an include that was found, and an opening that is not closed is passed
over one letter at a time. -/
def Marks.scan (marks : Marks α) : (skip : Nat) → List α → List (List α)
  | _, [] => []
  | skip + 1, _ :: rest => marks.scan skip rest
  | 0, letter :: rest =>
    match marks.capture? (letter :: rest) with
    | some path => path :: marks.scan (marks.opening.length + path.length) rest
    | none => marks.scan 0 rest

def characters : Marks Char where
  opening := "#include \"".toList
  quote := '"'
  lineEnds := ['\r', '\n']

def bytes : Marks UInt8 where
  opening := "#include \"".toList.map (·.toUInt8)
  quote := '"'.toUInt8
  lineEnds := ['\r'.toUInt8, '\n'.toUInt8]

/-- The paths that a text includes, in the order in which they stand in it. A path that is included
twice is listed twice, and empty paths are listed as well. -/
def paths (text : List Char) : List String :=
  (characters.scan 0 text).map String.ofList

end UnityBuild.Include
