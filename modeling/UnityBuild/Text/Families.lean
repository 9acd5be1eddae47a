import UnityBuild.Text.Property

/-!
# Digits, blanks and word characters

Word characters are letters, marks, decimal digits, connecting punctuation and the two join
controls.
-/

namespace UnityBuild.Text

def digits : CodeSet := Category.set [.decimalNumber]

def blanks : CodeSet := Property.whiteSpace.set

def wordLetters : CodeSet :=
  (Property.alphabetic.set.union Property.joinControl.set).union
    (Category.set [.nonspacingMark, .spacingMark, .enclosingMark, .decimalNumber,
      .connectorPunctuation])

end UnityBuild.Text
