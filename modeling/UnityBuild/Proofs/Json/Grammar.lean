import UnityBuild.Json.Skip
import UnityBuild.Proofs.Json.Reading

/-!
# What a JSON text may look like

The grammar of JSON over bytes, told without any reader. A text between quotes spells characters:
each stands for itself in its bytes or is escaped, by a letter or by its number. A value is a word,
a number, a text, or a list of values between brackets, and in an object every value has a label.

Which texts may stand in a value is left open. Elsewhere a text has to spell characters. In a value
that nobody wants it is enough that its closing quote can be found, so that bytes which are no
characters pass there, and numbered escapes which are half of a pair.
-/

namespace UnityBuild.Json

/-! ## Texts -/

/-- A digit to the base sixteen, in lower or upper case. -/
def HexDigit (byte : UInt8) (value : Nat) : Prop :=
  value < 16 ∧ (byte.toNat = (Nat.digitChar value).toNat ∨
    byte.toNat = (Nat.digitChar value).toUpper.toNat)

instance (byte : UInt8) (value : Nat) : Decidable (HexDigit byte value) :=
  inferInstanceAs (Decidable (_ ∧ _))

/-- Four digits to the base sixteen spell a number. -/
inductive HexNumber : Bytes → Nat → Prop
  | digits {first second third fourth : UInt8} {a b c d : Nat} (one : HexDigit first a)
      (two : HexDigit second b) (three : HexDigit third c) (four : HexDigit fourth d) :
      HexNumber [first, second, third, fourth] (((a * 16 + b) * 16 + c) * 16 + d)

/-- The letters of short escapes, and what they stand for. -/
def shortEscapes : List (UInt8 × Char) :=
  [(0x22, '"'), (0x5C, '\\'), (0x2F, '/'), (0x62, '\x08'), (0x66, '\x0C'), (0x6E, '\n'),
    (0x72, '\r'), (0x74, '\t')]

/-- What may follow a backslash, and the character it stands for. A character above the first plane
has a pair of numbers. -/
inductive Escape : Bytes → Char → Prop
  | short {byte : UInt8} {letter : Char} (listed : (byte, letter) ∈ shortEscapes) :
      Escape [byte] letter
  | number {digits : Bytes} {number : Nat} (hex : HexNumber digits number)
      (whole : number < 0xD800 ∨ 0xDFFF < number) : Escape (0x75 :: digits) (Char.ofNat number)
  | pair {digits digits' : Bytes} {leading trailing : Nat} (hex : HexNumber digits leading)
      (upper : 0xD800 ≤ leading ∧ leading ≤ 0xDBFF) (hex' : HexNumber digits' trailing)
      (lower : 0xDC00 ≤ trailing ∧ trailing ≤ 0xDFFF) :
      Escape (0x75 :: (digits ++ 0x5C :: 0x75 :: digits'))
        (Char.ofNat ((leading - 0xD800) * 0x400 + (trailing - 0xDC00) + 0x10000))

/-- What stands between quotes, and the characters that it spells: characters that stand for
themselves, in their bytes, and escapes. -/
inductive Spelling : Bytes → List Char → Prop
  | nil : Spelling [] []
  | plain {letter : Char} {rest : Bytes} {letters : List Char} (visible : 0x20 ≤ letter.toNat)
      (noQuote : letter ≠ '"') (noSlash : letter ≠ '\\') (onward : Spelling rest letters) :
      Spelling (String.utf8EncodeChar letter ++ rest) (letter :: letters)
  | escape {escaped rest : Bytes} {letter : Char} {letters : List Char}
      (escape : Escape escaped letter) (onward : Spelling rest letters) :
      Spelling (0x5C :: (escaped ++ rest)) (letter :: letters)

/-- What may stand between quotes where nobody asks for its characters. Bytes need not be characters
there, and half of a pair may be written without the other half. -/
inductive Passable : Bytes → Prop
  | nil : Passable []
  | byte {byte : UInt8} {rest : Bytes} (visible : 0x20 ≤ byte) (noQuote : byte ≠ 0x22)
      (noSlash : byte ≠ 0x5C) (onward : Passable rest) : Passable (byte :: rest)
  | short {byte : UInt8} {letter : Char} {rest : Bytes} (listed : (byte, letter) ∈ shortEscapes)
      (onward : Passable rest) : Passable (0x5C :: byte :: rest)
  | number {digits rest : Bytes} {number : Nat} (hex : HexNumber digits number)
      (onward : Passable rest) : Passable (0x5C :: 0x75 :: (digits ++ rest))

/-- What spells some characters. -/
def Legible (body : Bytes) : Prop :=
  ∃ letters, Spelling body letters

/-- What stands in quotes, and what it spells. -/
def Quoted (text : Bytes) (value : String) : Prop :=
  ∃ body, Spelling body value.toList ∧ text = 0x22 :: (body ++ [0x22])

/-! ## Numbers -/

/-- One or more decimal digits. -/
def Digits (text : Bytes) : Prop :=
  text ≠ [] ∧ ∀ byte ∈ text, Cursor.isDigit byte = true

/-- The digits before the point. Only a zero alone begins with a zero. -/
def Whole (text : Bytes) : Prop :=
  text = [0x30] ∨ Digits text ∧ text.head? ≠ some 0x30

def Fraction (text : Bytes) : Prop :=
  text = [] ∨ ∃ digits, Digits digits ∧ text = 0x2E :: digits

def Exponent (text : Bytes) : Prop :=
  text = [] ∨ ∃ mark sign digits, mark ∈ [0x65, 0x45] ∧ sign ∈ [[], [0x2B], [0x2D]] ∧
    Digits digits ∧ text = mark :: (sign ++ digits)

/-- A number behind its sign. -/
def Unsigned (text : Bytes) : Prop :=
  ∃ whole fraction exponent, Whole whole ∧ Fraction fraction ∧ Exponent exponent ∧
    text = whole ++ (fraction ++ exponent)

def Number (text : Bytes) : Prop :=
  Unsigned text ∨ ∃ digits, Unsigned digits ∧ text = 0x2D :: digits

/-! ## Values -/

def words : List Bytes :=
  [Utf8.encode "null", Utf8.encode "true", Utf8.encode "false"]

/-- What stands in front of an element: nothing in front of the first one, and otherwise a comma. -/
inductive Lead : Bool → Bytes → Prop
  | first : Lead true []
  | more {blanks : Bytes} (blank : Blank blanks) : Lead false (blanks ++ [0x2C])

namespace Bracket

def opening : Bracket → UInt8
  | list => 0x5B
  | object => 0x7B

end Bracket

/-- What stands in front of a value between brackets: nothing in a list, and a name with a colon in
an object. -/
inductive Label (inText : Bytes → Prop) : Bracket → Bytes → Prop
  | none : Label inText .list []
  | name {body blanks : Bytes} (name : inText body) (blank : Blank blanks) :
      Label inText .object (0x22 :: (body ++ 0x22 :: (blanks ++ [0x3A])))

/-- The parts of which a value is made: values, and what stands between brackets from the first
element on or from a later one. -/
inductive Part where
  | value
  | inside (bracket : Bracket) (first : Bool)
  deriving DecidableEq, Repr

/-- The written form of values, with what may stand in their texts. Values and what stands between
brackets are defined together, as parts of one form. -/
inductive Written (inText : Bytes → Prop) : Part → Bytes → Prop
  | word {word : Bytes} (listed : word ∈ words) : Written inText .value word
  | number {text : Bytes} (number : Number text) : Written inText .value text
  | text {body : Bytes} (fits : inText body) : Written inText .value (0x22 :: (body ++ [0x22]))
  | nested {bracket : Bracket} {elements : Bytes}
      (inside : Written inText (.inside bracket true) elements) :
      Written inText .value (bracket.opening :: (elements ++ [bracket.closing]))
  | close {bracket : Bracket} {first : Bool} {blanks : Bytes} (blank : Blank blanks) :
      Written inText (.inside bracket first) blanks
  | element {bracket : Bracket} {first : Bool} {comma blanks name blanks' text rest : Bytes}
      (lead : Lead first comma) (blank : Blank blanks) (label : Label inText bracket name)
      (blank' : Blank blanks') (value : Written inText .value text)
      (onward : Written inText (.inside bracket false) rest) :
      Written inText (.inside bracket first)
        (comma ++ (blanks ++ (name ++ (blanks' ++ (text ++ rest)))))

/-- A value that nobody wants. -/
abbrev Ignored : Bytes → Prop := Written Passable .value

/-- A value all texts of which spell characters. Every such value is one that can be skipped. -/
abbrev Value : Bytes → Prop := Written Legible .value

/-- Elements of some form with commas between them, and blanks in front of each and behind the last.
The flag tells whether the next element is the first one. -/
inductive Listing {α : Type} (form : Bytes → α → Prop) : Bool → Bytes → List α → Prop
  | close {first : Bool} {blanks : Bytes} (blank : Blank blanks) : Listing form first blanks []
  | element {first : Bool} {comma blanks text rest : Bytes} {item : α} {items : List α}
      (lead : Lead first comma) (blank : Blank blanks) (element : form text item)
      (onward : Listing form false rest items) :
      Listing form first (comma ++ (blanks ++ (text ++ rest))) (item :: items)

/-! ## What the grammar tells at once -/

/-- A character that may stand for itself between quotes. -/
def isLiteral (letter : Char) : Bool :=
  0x20 ≤ letter.toNat && letter != '"' && letter != '\\'

theorem Spelling.of_isLiteral {letters : List Char} (literal : letters.all isLiteral = true) :
    Spelling (letters.flatMap String.utf8EncodeChar) letters := by
  induction letters with
  | nil => exact .nil
  | cons letter letters ih =>
    simp only [List.all_cons, isLiteral, Bool.and_eq_true, decide_eq_true_eq, bne_iff_ne] at literal
    obtain ⟨⟨⟨visible, noQuote⟩, noSlash⟩, others⟩ := literal
    exact .plain visible noQuote noSlash (ih others)

theorem Quoted.of_isLiteral {value : String} (literal : value.toList.all isLiteral = true) :
    Quoted (0x22 :: (Utf8.encode value ++ [0x22])) value :=
  ⟨_, .of_isLiteral literal, rfl⟩

theorem Label.mono {inText other : Bytes → Prop} (weaker : ∀ body, inText body → other body)
    {bracket : Bracket} {name : Bytes} (label : Label inText bracket name) :
    Label other bracket name := by
  cases label with
  | none => exact .none
  | name fits blank => exact .name (weaker _ fits) blank

/-- A value stays one when more is allowed in its texts. -/
theorem Written.mono {inText other : Bytes → Prop} (weaker : ∀ body, inText body → other body)
    {part : Part} {text : Bytes} (written : Written inText part text) :
    Written other part text := by
  induction written with
  | word listed => exact .word listed
  | number number => exact .number number
  | text fits => exact .text (weaker _ fits)
  | nested _ ih => exact .nested ih
  | close blank => exact .close blank
  | element lead blank label blank' _ _ value onward =>
    exact .element lead blank (label.mono weaker) blank' value onward

theorem Listing.mono {α : Type} {form other : Bytes → α → Prop}
    (weaker : ∀ text item, form text item → other text item) {first : Bool} {text : Bytes}
    {items : List α} (listing : Listing form first text items) :
    Listing other first text items := by
  induction listing with
  | close blank => exact .close blank
  | element lead blank element _ ih => exact .element lead blank (weaker _ _ element) ih

end UnityBuild.Json
