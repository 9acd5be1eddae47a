import UnityBuild.Text.Property
import UnityBuild.Text.Recent

/-!
# Characters without a shape of their own

The characters that a reader could not tell from their surroundings: controls, formatting
characters, unassigned and private ones, every separator but the blank, characters that may be
ignored when they cannot be shown, and characters that only extend the one before them. The two
halfwidth sound marks extend the character before them too, but have a width of their own.
-/

namespace UnityBuild.Text

def shapeless : CodeSet :=
  let marks := (Property.graphemeExtend.set.difference (.ofLines ["FF9E-FF9F"])).union Recent.marks
  let unseen := Category.set [.control, .format, .surrogate, .privateUse, .unassigned,
    .spaceSeparator, .lineSeparator, .paragraphSeparator]
  (((unseen.difference Recent.added).union Property.defaultIgnorableCodePoint.set).union
    marks).difference (.ofLines ["20"])

def isShapeless (letter : Char) : Bool :=
  shapeless.contains letter.toNat

end UnityBuild.Text
