import UnityBuild.Pattern.Look

/-!
# Regular expressions

An expression describes texts inside of a text. It is built in a plain form: a sequence has no
sequences, no empty parts and no neighbouring texts in it, a choice has no choices in it, and where
a set of characters says the same as a choice it takes its place. If all branches of a choice are
sequences that begin alike, what they begin with is taken out of the choice.

The plain form matters because the size of an expression is counted in it. No part of it changes
what an expression matches.
-/

namespace UnityBuild.Pattern

open UnityBuild.Text (CodeSet)

inductive Expression where
  /-- The empty text. -/
  | empty
  /-- A text of at least one character. -/
  | text (letters : List Char)
  /-- One character of a set. A set that was written for ASCII only is narrow. -/
  | oneOf (set : CodeSet) (narrow : Bool)
  /-- The empty text, where a condition holds. -/
  | look (condition : Look)
  /-- A text for the body, again and again, rather more often than less if it is greedy. -/
  | repetition (body : Expression) (least : Nat) (most : Option Nat) (greedy : Bool)
  /-- A text for the body, which is kept apart. -/
  | capture (body : Expression)
  | sequence (parts : List Expression)
  | choice (branches : List Expression)
  deriving Repr

namespace Expression

/-- What nothing matches. -/
def nothing : Expression := oneOf .empty true

/-- The members of a set that are characters. The numbers from 0xD800 to 0xDFFF are none. -/
def characters (set : CodeSet) : CodeSet :=
  if set.ranges.any fun (first, last) => first < 0xE000 && 0xD800 ≤ last then
    set.difference (.ofRanges [(0xD800, 0xDFFF)])
  else set

/-- One character of a set, which is a text if there is only one. -/
def ofSet (set : CodeSet) (narrow : Bool) : Expression :=
  let set := characters set
  match set.ranges with
  | [] => nothing
  | [(first, last)] => if first = last then text [Char.ofNat first] else oneOf set narrow
  | _ => oneOf set narrow

def parts : Expression → List Expression
  | empty => []
  | sequence parts => parts
  | other => [other]

/-- Puts a part in front of others. Two texts become one. -/
def attach (part : Expression) (parts : List Expression) : List Expression :=
  match part, parts with
  | text letters, text more :: rest => text (letters ++ more) :: rest
  | part, parts => part :: parts

def ofSequence (list : List Expression) : Expression :=
  match (list.flatMap parts).foldr attach [] with
  | [] => empty
  | [part] => part
  | parts => sequence parts

def branches : Expression → List Expression
  | choice branches => branches
  | other => [other]

def letter? : Expression → Option (List (Nat × Nat))
  | text [letter] => some [(letter.toNat, letter.toNat)]
  | _ => none

def ranges? : Expression → Option (List (Nat × Nat))
  | oneOf set _ => some set.ranges
  | _ => none

/-- One of the expressions, of which nothing is taken out. -/
def ofBranches (list : List Expression) : Expression :=
  match list.flatMap branches with
  | [] => nothing
  | [branch] => branch
  | branches =>
    match (branches.mapM letter?).or (branches.mapM ranges?) with
    | some ranges => ofSet (.ofRanges ranges.flatten) false
    | none => choice branches

mutual

/-- Whether two expressions are the same. What is kept apart differs even where it looks alike. -/
def same : Expression → Expression → Bool
  | empty, empty => true
  | text letters, text others => letters == others
  | oneOf set narrow, oneOf other also => set == other && narrow == also
  | look condition, look other => condition == other
  | repetition body least most greedy, repetition other owed allowed eager =>
    least == owed && most == allowed && greedy == eager && same body other
  | sequence parts, sequence others => sameAll parts others
  | choice branches, choice others => sameAll branches others
  | _, _ => false

def sameAll : List Expression → List Expression → Bool
  | [], [] => true
  | part :: parts, other :: others => same part other && sameAll parts others
  | _, _ => false

end

/-- What two sequences begin with. -/
def commonFront (parts others : List Expression) : List Expression :=
  ((parts.zip others).takeWhile fun (part, other) => part.same other).map (·.1)

def sequence? : Expression → Option (List Expression)
  | sequence parts => some parts
  | _ => none

def ofChoice (list : List Expression) : Expression :=
  let whole := ofBranches list
  match whole.branches.mapM sequence? with
  | some (first :: second :: more) =>
    let front := (second :: more).foldl commonFront first
    if front.isEmpty then whole
    else
      let rests := (first :: second :: more).map fun parts => ofSequence (parts.drop front.length)
      ofSequence (front ++ [ofBranches rests])
  | _ => whole

mutual

def onlyEmpty : Expression → Bool
  | empty => true
  | text _ => false
  | oneOf _ _ => false
  | look _ => true
  | repetition body _ _ _ => onlyEmpty body
  | capture body => onlyEmpty body
  | sequence parts => allOnlyEmpty parts
  | choice branches => allOnlyEmpty branches

def allOnlyEmpty : List Expression → Bool
  | [] => true
  | part :: parts => onlyEmpty part && allOnlyEmpty parts

end

/-- A repetition. More than one empty text is no more than one. -/
def ofRepetition (body : Expression) (least : Nat) (most : Option Nat) (greedy : Bool) :
    Expression :=
  let single := body.onlyEmpty
  let least := if single then min least 1 else least
  let most := if single then some (min (most.getD 1) 1) else most
  if least = 0 ∧ most = some 0 then empty
  else if least = 1 ∧ most = some 1 then body
  else repetition body least most greedy

mutual

/-- Whether some part of an expression is a set without members. -/
def hasNothing : Expression → Bool
  | empty => false
  | text _ => false
  | oneOf set _ => set.ranges.isEmpty
  | look _ => false
  | repetition body _ _ _ => hasNothing body
  | capture body => hasNothing body
  | sequence parts => anyHasNothing parts
  | choice branches => anyHasNothing branches

def anyHasNothing : List Expression → Bool
  | [] => false
  | part :: parts => hasNothing part || anyHasNothing parts

end

mutual

def neverEmpty : Expression → Bool
  | empty => false
  | text _ => true
  | oneOf _ _ => true
  | look _ => false
  | repetition body least _ _ => 0 < least && neverEmpty body
  | capture body => neverEmpty body
  | sequence parts => anyNeverEmpty parts
  | choice branches => allNeverEmpty branches

def anyNeverEmpty : List Expression → Bool
  | [] => false
  | part :: parts => neverEmpty part || anyNeverEmpty parts

def allNeverEmpty : List Expression → Bool
  | [] => true
  | part :: parts => neverEmpty part && allNeverEmpty parts

end

end Expression

inductive Direction where
  | forward
  | backward
  deriving DecidableEq, Repr

namespace Expression

def edge : Direction → Look
  | .forward => .textStart
  | .backward => .textEnd

mutual

/-- Whether every match plainly begins at the edge of the text where reading begins. -/
def isAnchored (direction : Direction) : Expression → Bool
  | empty => false
  | text _ => false
  | oneOf _ _ => false
  | look condition => condition == edge direction
  | repetition body least _ _ => 0 < least && isAnchored direction body
  | capture body => isAnchored direction body
  | sequence parts =>
    match direction with
    | .forward => isAnchoredFront parts
    | .backward => isAnchoredBack false parts
  | choice branches => areAnchored direction branches

/-- Whether parts are anchored that are read from the first one on. -/
def isAnchoredFront : List Expression → Bool
  | [] => false
  | part :: parts => isAnchored .forward part || (onlyEmpty part && isAnchoredFront parts)

/-- Whether parts are anchored that are read from the last one on, given whether those before them
are. -/
def isAnchoredBack (before : Bool) : List Expression → Bool
  | [] => before
  | part :: parts =>
    isAnchoredBack (isAnchored .backward part || (onlyEmpty part && before)) parts

def areAnchored (direction : Direction) : List Expression → Bool
  | [] => true
  | branch :: branches => isAnchored direction branch && areAnchored direction branches

end

end Expression

end UnityBuild.Pattern
