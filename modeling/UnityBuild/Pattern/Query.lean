import UnityBuild.Pattern.Fault
import UnityBuild.Pattern.Tree
import UnityBuild.Text.Age
import UnityBuild.Text.Boundary
import UnityBuild.Text.ScriptUse

/-!
# Queries for characters

A query names a property that characters have or have not, a general category, a script, or a value
of a property that has several. Names are compared without regard to case, blanks, hyphens and
underscores. A name that is known need not have a set: of some properties nothing is listed, and
surrogates are no characters.
-/

namespace UnityBuild.Pattern

open UnityBuild.Text

/-- The properties with values that a query may ask for. -/
inductive Valued where
  | category
  | script
  | scriptExtensions
  | age
  | characterBoundary
  | wordBoundary
  | sentenceBoundary
  deriving DecidableEq, Repr

namespace Query

/-- A name in lower case, without blanks, hyphens, underscores and a leading `is`. -/
def plain (name : List Char) : List Char :=
  let reduce (text : List Char) : List Char :=
    (text.filter fun letter =>
      letter.toNat < 128 && !([' ', '_', '-'].contains letter)).map Char.toLower
  match name with
  | first :: second :: rest =>
    if first.toLower = 'i' && second.toLower = 's' then
      if reduce rest = ['c'] then ['i', 's', 'c'] else reduce rest
    else reduce name
  | _ => reduce name

/-- The set of a general category, or of one of the wider ones. -/
def category? (name : String) : Option CodeSet :=
  match name with
  | "any" => some CodeSet.empty.complement
  | "assigned" => some (Category.set [.unassigned]).complement
  | "ascii" => some (.ofRanges [(0, 0x7F)])
  | _ =>
    match Category.named? name with
    | some [.surrogate] => none
    | found => found.map Category.set

def isCategory (name : String) : Bool :=
  (category? name).isSome || Category.named? name == some [.surrogate]

/-- Whether a name and a spelling of it are the same. -/
def isSpelled (name spelling : String) : Bool := plain spelling.toList = name.toList

def scriptCode? (name : String) : Option String :=
  let listed := Script.names.find? fun (code, long) => isSpelled name code || isSpelled name long
  let other := Script.aliases.find? fun (spelling, _) => isSpelled name spelling
  (listed.map (·.1)).or (other.map (·.2))

def script? (name : String) : Option CodeSet := (scriptCode? name).map Script.set

/-- Whether a name is that of a script, which may be one without characters. -/
def isScript (name : String) : Bool :=
  (scriptCode? name).isSome || Script.unused.any fun (code, long) =>
    isSpelled name code || isSpelled name long

def valued? : String → Option Valued
  | "gc" | "generalcategory" => some .category
  | "sc" | "script" => some .script
  | "scx" | "scriptextensions" => some .scriptExtensions
  | "age" => some .age
  | "gcb" | "graphemeclusterbreak" => some .characterBoundary
  | "wb" | "wordbreak" => some .wordBoundary
  | "sb" | "sentencebreak" => some .sentenceBoundary
  | _ => none

def value? (property : Valued) (value : String) : Option CodeSet :=
  match property with
  | .category => category? value
  | .script => script? value
  | .scriptExtensions => (scriptCode? value).map Script.extended
  | .age => Age.named? value
  | .characterBoundary => Boundary.character? value
  | .wordBoundary => Boundary.word? value
  | .sentenceBoundary => Boundary.sentence? value

/-- The names of the other properties, of which nothing is listed. -/
def unlisted : List String :=
  ["bc", "bidiclass", "bidimirroringglyph", "bidipairedbracket", "bidipairedbrackettype", "blk",
   "block", "bmg", "bpb", "bpt", "canonicalcombiningclass", "casefolding", "ccc", "ce", "cf",
   "changeswhennfkccasefolded", "cjkaccountingnumeric", "cjkcompatibilityvariant", "cjkiicore",
   "cjkirggsource", "cjkirghsource", "cjkirgjsource", "cjkirgkpsource", "cjkirgksource",
   "cjkirgmsource", "cjkirgssource", "cjkirgtsource", "cjkirguksource", "cjkirgusource",
   "cjkirgvsource", "cjkothernumeric", "cjkprimarynumeric", "cjkrsunicode", "compex",
   "compositionexclusion", "cwkcf", "decompositionmapping", "decompositiontype", "dm", "dt",
   "ea", "eastasianwidth", "equideo", "equivalentunifiedideograph", "expandsonnfc",
   "expandsonnfd", "expandsonnfkc", "expandsonnfkd", "fcnfkc", "fcnfkcclosure",
   "fullcompositionexclusion", "hangulsyllabletype", "hst", "incb", "indicconjunctbreak",
   "indicpositionalcategory", "indicsyllabiccategory", "inpc", "insc", "isc", "jamoshortname",
   "jg", "joininggroup", "joiningtype", "jsn", "jt", "kaccountingnumeric",
   "kcompatibilityvariant", "kehcat", "kehdesc", "kehhg", "kehifao", "kehjsesh", "kehnomirror",
   "kehnorotate", "kiicore", "kirggsource", "kirghsource", "kirgjsource", "kirgkpsource",
   "kirgksource", "kirgmsource", "kirgssource", "kirgtsource", "kirguksource", "kirgusource",
   "kirgvsource", "kothernumeric", "kprimarynumeric", "krsunicode", "lb", "lc", "linebreak",
   "lowercasemapping", "na", "na1", "name", "namealias", "nfcqc", "nfcquickcheck", "nfdqc",
   "nfdquickcheck", "nfkccasefold", "nfkccf", "nfkcqc", "nfkcquickcheck", "nfkcscf",
   "nfkcsimplecasefold", "nfkdqc", "nfkdquickcheck", "nt", "numerictype", "numericvalue", "nv",
   "ocomment", "scf", "sfc", "simplecasefolding", "simplelowercasemapping",
   "simpletitlecasemapping", "simpleuppercasemapping", "slc", "stc", "suc", "tc",
   "titlecasemapping", "uc", "unicode1name", "unicoderadicalstroke", "uppercasemapping", "urs",
   "verticalorientation", "vo", "xonfc", "xonfd", "xonfkc", "xonfkd"]

def isProperty (name : String) : Bool :=
  (Property.named? name).isSome || (valued? name).isSome || unlisted.contains name

/-- Names of properties that are understood as names of categories when they stand alone. -/
def shared : List String := ["cf", "lc", "sc"]

def found (set : Option CodeSet) (mistake : Mistake) : Except Mistake CodeSet :=
  match set with
  | some set => .ok set
  | none => .error mistake

def named (name : String) : Except Mistake CodeSet :=
  if isProperty name && !shared.contains name then
    found ((Property.named? name).map Property.set) .propertyUnknown
  else if isCategory name then found (category? name) .propertyValueUnknown
  else if isScript name then found (script? name) .propertyValueUnknown
  else .error .propertyUnknown

def valued (name value : String) : Except Mistake CodeSet :=
  match valued? name with
  | some property => found (value? property value) .propertyValueUnknown
  | none => .error (if isProperty name then .propertyValueUnknown else .propertyUnknown)

/-- The set of the characters that have what a query speaks of. -/
def set : Query → Except Mistake CodeSet
  | name text => named (String.ofList (plain text))
  | value text wanted _ => valued (String.ofList (plain text)) (String.ofList (plain wanted))

/-- Whether a query is for the characters that do not have what it speaks of. -/
def isNegative : Query → Bool
  | name _ => false
  | value _ _ negative => negative

end Query

end UnityBuild.Pattern
