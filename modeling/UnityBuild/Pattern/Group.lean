import UnityBuild.Pattern.Reader
import UnityBuild.Pattern.Tree
import UnityBuild.Text.Property
import UnityBuild.Text.Recent

/-!
# Groups

Behind the opening parenthesis of a group may stand a name for what it captures, or flags. Flags
that end with a parenthesis in place of a colon hold for the rest of the group around them.
-/

namespace UnityBuild.Pattern

/-- What an opening parenthesis begins. -/
inductive Opening where
  | switches (span : Span) (switches : Switches)
  | group (captures : Bool) (switches : Switches)
  deriving DecidableEq, Repr

/-- The flags read so far, in their order, each with its span. -/
structure FlagList where
  on : List (Flag × Span)
  /-- The span of the hyphen and the flags behind it. -/
  off : Option (Span × List (Flag × Span))
  deriving DecidableEq, Repr

namespace FlagList

def switches (flags : FlagList) : Switches :=
  ⟨flags.on.map (·.1), ((flags.off.map (·.2)).getD []).map (·.1)⟩

/-- The span of an earlier flag of the same kind. -/
def earlier? (flags : FlagList) (flag : Flag) : Option Span :=
  (flags.on ++ (flags.off.map (·.2)).getD []).lookup flag

def push (flags : FlagList) (flag : Flag) (span : Span) : FlagList :=
  match flags.off with
  | none => { flags with on := flags.on ++ [(flag, span)] }
  | some (hyphen, off) => { flags with off := some (hyphen, off ++ [(flag, span)]) }

end FlagList

namespace Reader

/-- Reads flags up to a colon or a parenthesis, which is left. The number bounds the length. -/
def flags : Nat → FlagList → Reader FlagList
  | 0, read => return read
  | count + 1, read => do
    let span ← letterSpan
    match ← letter? with
    | none => fail .flagsUnfinished span
    | some '-' =>
      match read.off with
      | some (hyphen, _) => failAgain .negationRepeated span hyphen
      | none =>
        next
        flags count { read with off := some (span, []) }
    | some letter =>
      if letter == ':' || letter == ')' then
        match read.off with
        | some (hyphen, []) => fail .negationDangling hyphen
        | _ => return read
      else
        match Flag.ofLetter? letter with
        | none => fail .flagUnknown span
        | some flag =>
          match read.earlier? flag with
          | some earlier => failAgain .flagRepeated span earlier
          | none =>
            next
            flags count (read.push flag span)

def isNameStart (letter : Char) : Bool :=
  letter == '_' || letters.contains letter.toNat
where
  letters : Text.CodeSet := Text.Property.alphabetic.set.union Text.Recent.letters

def isNamePart (letter : Char) : Bool :=
  isNameStart letter || ['.', '[', ']'].contains letter || numbers.contains letter.toNat
where
  numbers : Text.CodeSet :=
    (Text.Category.set [.decimalNumber, .letterNumber, .otherNumber]).union Text.Recent.digits

/-- Reads a name up to the closing bracket, which is taken. No other group may have it. -/
def groupName : Reader Unit := do
  let start ← here
  match ← letter? with
  | none => fail .nameUnclosed (.point start)
  | some '>' => fail .nameEmpty (.point start)
  | some letter =>
    if isNameStart letter then
      let name ← takeWhile isNamePart
      let span : Span := ⟨start, ← here⟩
      match ← letter? with
      | none => fail .nameUnclosed (.point (← here))
      | some '>' =>
        next
        match (← get).names.lookup name with
        | some earlier => failAgain .nameRepeated span earlier
        | none => modify fun cursor => { cursor with names := (name, span) :: cursor.names }
      | some _ => fail .nameCharacter (← letterSpan)
    else fail .nameCharacter (← letterSpan)

/-- Reads the opening of a group, from the parenthesis on. -/
def groupOpening : Reader Opening := do
  let parenthesis ← letterSpan
  advance
  let inner ← here
  let rest := (← get).rest
  if let some look := [['?', '='], ['?', '!'], ['?', '<', '='], ['?', '<', '!']].find?
      (·.isPrefixOf rest) then
    let _ ← take? look
    fail .lookAround ⟨parenthesis.start, ← here⟩
  else if (← take? ['?', 'P', '<']) || (← take? ['?', '<']) then
    groupName
    return .group true .none
  else if ← take? ['?'] then
    if (← letter?).isNone then fail .groupUnclosed parenthesis
    else
      let read ← flags ((← get).rest.length + 1) ⟨[], none⟩
      let last ← letter?
      next
      if last = some ')' then
        if read.switches = .none then fail .nothingToRepeat (.point inner)
        else return .switches ⟨parenthesis.start, ← here⟩ read.switches
      else return .group false read.switches
  else return .group true .none

end Reader

end UnityBuild.Pattern
