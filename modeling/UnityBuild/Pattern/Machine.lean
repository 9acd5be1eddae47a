import UnityBuild.Pattern.Expression
import UnityBuild.Text.Runs

/-!
# Machines that search

A machine is a list of instructions, and a place in it is the number of an instruction. Instructions
read a character, look at the surroundings, or go to other places. All distances are relative, so a
machine for a part of an expression is a part of the machine for the whole, and may stand in it
several times.

A search follows all ways through the machine at once. Between two characters it keeps the places
from which a character may be read, each of them once. The text has a match when the end of the
machine is reached.
-/

namespace UnityBuild.Pattern

open UnityBuild.Text (CodeSet Runs)

inductive Instruction where
  | letter (letter : Char)
  | oneOf (members : Runs Bool)
  | look (condition : Look)
  /-- Goes on behind this instruction and at some distance from it. -/
  | fork (distance : Int)
  /-- Goes on at some distance from this instruction. -/
  | jump (distance : Int)

def Instruction.reads (letter : Char) : Instruction → Bool
  | .letter wanted => letter == wanted
  | oneOf members => members.contains letter.toNat
  | _ => false

abbrev Machine := Array Instruction

namespace Machine

def copies (body : Machine) : Nat → Machine → Machine
  | 0, done => done
  | count + 1, done => copies body count (done ++ body)

/-- A machine up to some number of times behind another one. Before each time it may go to the end.
-/
def options (body : Machine) : Nat → Machine → Machine
  | 0, done => done
  | count + 1, done =>
    options body count (done.push (.fork ((count + 1) * (body.size + 1))) ++ body)

/-- A machine, and from its end back to its beginning. -/
def again (body : Machine) : Machine := body.push (.fork (-body.size))

def repetition (body : Machine) (least : Nat) : Option Nat → Machine
  | some most => options body (most - least) (copies body least #[])
  | none =>
    if least = 0 then #[.fork (body.size + 2)] ++ again body
    else copies body (least - 1) #[] ++ again body

/-- One of some machines, behind another one. The number is the size of what is still to come. -/
def choice : Nat → List Machine → Machine → Machine
  | _, [], done => done
  | _, [last], done => done ++ last
  | size, branch :: branches, done =>
    let size := size - (branch.size + 2)
    choice size branches ((done.push (.fork (branch.size + 2)) ++ branch).push (.jump (size + 1)))

mutual

def ofExpression : Expression → Machine
  | .empty => #[]
  | .text letters => (letters.map .letter).toArray
  | .oneOf set _ => #[.oneOf (.ofSet set)]
  | .look condition => #[.look condition]
  | .repetition body least most _ => repetition (ofExpression body) least most
  | .capture body => ofExpression body
  | .sequence parts => sequence #[] parts
  | .choice branches =>
    let machines := (ofBranches [] branches).reverse
    choice ((machines.map Array.size).foldr (· + ·) 0 + 2 * (machines.length - 1)) machines #[]

def sequence (done : Machine) : List Expression → Machine
  | [] => done
  | part :: parts => sequence (done ++ ofExpression part) parts

/-- The machines for some branches, the last one first, in front of others. -/
def ofBranches (done : List Machine) : List Expression → List Machine
  | [] => done
  | branch :: branches => ofBranches (ofExpression branch :: done) branches

end

/-- The places of a machine that a search has met, and those from which a character may be read. A
place was met between the current two characters if its mark is the current one. -/
structure Progress where
  marks : Array Nat
  waiting : List Nat
  ended : Bool

/-- The place at some distance from another one. -/
def target (place : Nat) (distance : Int) : Nat := (place + distance).toNat

/-- Follows all ways from some places up to the next character. The number bounds the steps, of
which no more than two lead away from each place. -/
def follow (machine : Machine) (surroundings : Surroundings) (mark : Nat) :
    Nat → List Nat → Progress → Progress
  | 0, _, progress => progress
  | _, [], progress => progress
  | count + 1, place :: places, ⟨marks, waiting, ended⟩ =>
    if marks[place]? = some mark then
      follow machine surroundings mark count places ⟨marks, waiting, ended⟩
    else
      let marks := marks.setIfInBounds place mark
      match machine[place]? with
      | none => ⟨marks, waiting, true⟩
      | some (.letter _) | some (.oneOf _) =>
        follow machine surroundings mark count places ⟨marks, place :: waiting, ended⟩
      | some (.look condition) =>
        let places := if condition.holds surroundings then (place + 1) :: places else places
        follow machine surroundings mark count places ⟨marks, waiting, ended⟩
      | some (.fork distance) =>
        follow machine surroundings mark count ((place + 1) :: target place distance :: places)
          ⟨marks, waiting, ended⟩
      | some (.jump distance) =>
        follow machine surroundings mark count (target place distance :: places)
          ⟨marks, waiting, ended⟩

/-- Whether a search that may begin at the start of the machine before every character ends in a
text, given the places behind the character before it. -/
def search (machine : Machine) (mark : Nat) (places : List Nat) (marks : Array Nat)
    (before : Option Char) : List Char → Bool
  | [] =>
    (follow machine ⟨before, none⟩ mark (places.length + 2 * machine.size + 2) (0 :: places)
      ⟨marks, [], false⟩).ended
  | letter :: rest =>
    let progress := follow machine ⟨before, some letter⟩ mark
      (places.length + 2 * machine.size + 2) (0 :: places) ⟨marks, [], false⟩
    progress.ended ||
      search machine (mark + 1)
        ((progress.waiting.filter fun place =>
          machine[place]?.any (·.reads letter)).map (· + 1))
        progress.marks (some letter) rest

def occursIn (machine : Machine) (text : List Char) : Bool :=
  search machine 1 [] (Array.replicate machine.size 0) none text

end Machine

end UnityBuild.Pattern
