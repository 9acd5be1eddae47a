import UnityBuild.Text.Property
import UnityBuild.Text.Script

/-!
# Boundaries in texts

Three rules cut a text: into what a reader takes for a character, into words, and into sentences.
Each rule sorts the characters into classes of its own, which follow the properties of characters
with few exceptions. The exceptions are those of version 16 of the standard. A character that is in
no class is in the class of all others, which has no name here.
-/

namespace UnityBuild.Text.Boundary

def numberSigns : CodeSet := .ofLines ["600-605 6DD 890-891 8E2 110BD 110CD"]

/-- Characters that format a text without joining or tagging anything. -/
def formats : CodeSet :=
  ((Category.set [.format]).difference numberSigns).difference (.ofLines ["200C-200D E0020-E007F"])

/-- The combined syllables, of which every twenty-eighth has no last consonant. -/
def openSyllables : CodeSet :=
  .ofRanges ((List.range 399).map fun index => (0xAC00 + 28 * index, 0xAC00 + 28 * index))

def syllables : CodeSet := .ofRanges [(0xAC00, 0xD7A3)]

def regionalIndicators : CodeSet := Property.regionalIndicator.set

def joiner : CodeSet := .ofLines ["200D"]

def carriageReturn : CodeSet := .ofLines ["D"]

def lineFeed : CodeSet := .ofLines ["A"]

/-- What extends the character before it. -/
def extenders : CodeSet := Property.graphemeExtend.set.union Property.emojiModifier.set

/-- What extends the character before it, or belongs to it and takes up space. -/
def marks : CodeSet := Property.graphemeExtend.set.union (Category.set [.spacingMark])

/-- A class of the rule for characters, by its name. -/
def character? (name : String) : Option CodeSet :=
  match name with
  | "cr" => some carriageReturn
  | "lf" => some lineFeed
  | "control" | "cn" =>
    let ignorable := Property.defaultIgnorableCodePoint.set.intersection
      (Category.set [.unassigned])
    let controls := (Category.set [.control, .lineSeparator, .paragraphSeparator]).difference
      (.ofLines ["A D"])
    some ((controls.union ignorable).union (formats.difference (.ofLines ["70F"])))
  | "extend" | "ex" => some extenders
  | "zwj" => some joiner
  | "regionalindicator" | "ri" => some regionalIndicators
  | "prepend" | "pp" =>
    some (Property.prependedConcatenationMark.set.union (.ofLines [
      "D4E 111C2-111C3 113D1 1193F 11941 11A3A 11A84-11A89 11D46 11F02"]))
  | "spacingmark" | "sm" =>
    let others := CodeSet.ofLines [
      "102B-102C 1038 1062-1064 1067-106D 1083 1087-108C 108F 109A-109C 1A61 1A63-1A64 AA7B AA7D",
      "11720-11721"]
    some ((((Category.set [.spacingMark]).difference extenders).difference others).union
      (.ofLines ["E33 EB3"]))
  | "l" => some (.ofLines ["1100-115F A960-A97C"])
  | "v" => some (.ofLines ["1160-11A7 D7B0-D7C6 16D63 16D67-16D6A"])
  | "t" => some (.ofLines ["11A8-11FF D7CB-D7FB"])
  | "lv" => some openSyllables
  | "lvt" => some (syllables.difference openSyllables)
  | _ => none

/-- The letters and marks of scripts that put no blanks between words. -/
def unspaced : CodeSet := .ofLines [
    "E01-E30 E32-E33 E40-E46 E81-E82 E84 E86-E8A E8C-EA3 EA5 EA7-EB0 EB2-EB3 EBD EC0-EC4 EC6",
    "EDC-EDF 1000-102A 103F 1050-1055 105A-105D 1061 1065-1066 106E-1070 1075-1081 108E",
    "1780-17B3 17D7 17DC 1950-196D 1970-1974 1980-19AB 19B0-19C9 1A20-1A54 1AA7 A9E0-A9E4",
    "A9E6-A9EF A9FA-A9FE AA60-AA76 AA7A AA7E-AAAF AAB1 AAB5-AAB6 AAB9-AABD AAC0 AAC2 AADB-AADD",
    "11700-1171A 11740-11746"]

def hebrewLetters : CodeSet := (Script.set "Hebr").intersection (Category.set [.otherLetter])

def katakana : CodeSet :=
  (Script.set "Kana").union (.ofLines ["3031-3035 309B-309C 30A0 30FC FF70"])

/-- A class of the rule for words, by its name. -/
def word? (name : String) : Option CodeSet :=
  match name with
  | "cr" => some carriageReturn
  | "lf" => some lineFeed
  | "newline" | "nl" => some (.ofLines ["B-C 85 2028-2029"])
  | "extend" => some (marks.union Property.emojiModifier.set)
  | "zwj" => some joiner
  | "regionalindicator" | "ri" => some regionalIndicators
  | "format" | "fo" => some (formats.difference (.ofLines ["70F 200B"]))
  | "katakana" | "ka" => some katakana
  | "hebrewletter" | "hl" => some hebrewLetters
  | "aletter" | "le" =>
    let others := ((((Property.ideographic.set.union (Script.set "Hira")).union katakana).union
      hebrewLetters).union (marks.union Property.emojiModifier.set)).union unspaced
    some ((Property.alphabetic.set.difference others).union (.ofLines [
      "2C2-2C5 2D2-2D7 2DE-2DF 2E5-2EB 2ED 2EF-2FF 55A-55C 55E 58A 5F3 70F A708-A716 A720-A721",
      "A789-A78A AB5B"]))
  | "singlequote" | "sq" => some (.ofLines ["27"])
  | "doublequote" | "dq" => some (.ofLines ["22"])
  | "midnumlet" | "mb" => some (.ofLines ["2E 2018-2019 2024 FE52 FF07 FF0E"])
  | "midletter" | "ml" => some (.ofLines ["3A B7 387 55F 5F4 2027 FE13 FE55 FF1A"])
  | "midnum" | "mn" =>
    some (.ofLines ["2C 3B 37E 589 60C-60D 66C 7F8 2044 FE50 FE54 FF0C FF1B"])
  | "numeric" | "nu" =>
    some (((Category.set [.decimalNumber]).union numberSigns).union (.ofLines ["66B 19DA"]))
  | "extendnumlet" | "ex" =>
    some ((Category.set [.connectorPunctuation]).union (.ofLines ["202F"]))
  | "wsegspace" =>
    some ((Category.set [.spaceSeparator]).difference (.ofLines ["A0 2007 202F"]))
  | _ => none

/-- The letters in lower case, which those of scripts without case are not. -/
def lower : CodeSet :=
  (Property.lowercase.set.difference Property.graphemeExtend.set).difference
    (.ofLines ["10D0-10FA 10FD-10FF"])

def upper : CodeSet :=
  (Property.uppercase.set.union (Category.set [.titlecaseLetter])).difference
    (.ofLines ["1C90-1CBA 1CBD-1CBF"])

/-- The full stops, which do not always end a sentence. -/
def fullStops : CodeSet := .ofLines ["2E 2024 FE52 FF0E"]

/-- A class of the rule for sentences, by its name. -/
def sentence? (name : String) : Option CodeSet :=
  match name with
  | "cr" => some carriageReturn
  | "lf" => some lineFeed
  | "extend" | "ex" => some (marks.union joiner)
  | "sep" | "se" => some (.ofLines ["85 2028-2029"])
  | "format" | "fo" => some formats
  | "sp" => some (Property.whiteSpace.set.difference (.ofLines ["A D 85 2028-2029"]))
  | "lower" | "lo" => some lower
  | "upper" | "up" => some upper
  | "oletter" | "le" =>
    some ((((Property.alphabetic.set.difference lower).difference upper).difference
      (marks.union joiner)).union (.ofLines ["5F3"]))
  | "numeric" | "nu" =>
    some (((Category.set [.decimalNumber]).union numberSigns).union (.ofLines ["66B-66C 19DA"]))
  | "aterm" | "at" => some fullStops
  | "scontinue" | "sc" => some (.ofLines [
      "2C-2D 3A-3B 37E 55D 60C-60D 7F8 1802 1808 2013-2014 3001 FE10-FE11 FE13-FE14 FE31-FE32",
      "FE50-FE51 FE54-FE55 FE58 FE63 FF0C-FF0D FF1A-FF1B FF64"])
  | "sterm" | "st" => some (Property.sentenceTerminal.set.difference fullStops)
  | "close" | "cl" =>
    some ((Category.set [.openPunctuation, .closePunctuation, .initialPunctuation,
      .finalPunctuation]).union (.ofLines [
      "22 27 275B-2760 2E00-2E01 2E06-2E08 2E0B 1F676-1F678"]))
  | _ => none

end UnityBuild.Text.Boundary
