import UnityBuild.Text.Shapeless

/-!
# Quoted texts

A text inside a message stands between double quotes. What would end it or could not be seen is
written as an escape: a short one where there is one, the number of the character otherwise.
-/

namespace UnityBuild.Text

/-- The number of a character between braces, in hexadecimal digits without leading zeros. -/
def numbered (letter : Char) : List Char :=
  ['\\', 'u', '\x7b'] ++ Nat.toDigits 16 letter.toNat ++ ['\x7d']

def escaped (letter : Char) : List Char :=
  if letter = '\x00' then ['\\', '0']
  else if letter = '\t' then ['\\', 't']
  else if letter = '\n' then ['\\', 'n']
  else if letter = '\r' then ['\\', 'r']
  else if letter = '"' || letter = '\\' then ['\\', letter]
  else if isShapeless letter then numbered letter
  else [letter]

def quoted (text : String) : String :=
  String.ofList ('"' :: text.toList.flatMap escaped ++ ['"'])

end UnityBuild.Text
