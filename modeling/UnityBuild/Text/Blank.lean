/-!
# Blanks

The characters that separate words: the controls from tab to carriage return, the next line, and the
separators of space, lines and paragraphs.
-/

namespace UnityBuild.Text

def isBlank (letter : Char) : Bool :=
  let code := letter.toNat
  (9 ≤ code && code ≤ 13) || (0x2000 ≤ code && code ≤ 0x200A)
    || [0x20, 0x85, 0xA0, 0x1680, 0x2028, 0x2029, 0x202F, 0x205F, 0x3000].contains code

def trim (text : List Char) : List Char :=
  ((text.dropWhile isBlank).reverse.dropWhile isBlank).reverse

end UnityBuild.Text
