import UnityBuild.Pattern.SetSize
import UnityBuild.Pattern.TextSize

/-!
# Sizes of expressions

The size of an expression is what two machines for it take up, of which one reads the bytes of a
text forward and the other one backward. Counted repetitions are written out. An expression is too
large if one of its machines is larger than the limit.
-/

namespace UnityBuild.Pattern

namespace Room

/-- The room for a repetition of a body. A body that reads something each time needs less of it. -/
def ofRepetition (reads : Bool) (body : Room) (least : Nat) (most : Option Nat) : Room :=
  match least, most with
  | 0, none => if reads then all [take 1 0, body, take 0 8] else all [body, take 3 16]
  | least, none => all [times body least, take 1 8]
  | 0, some 1 => all [take 1 0, body, take 1 8]
  | least, some most =>
    if least = most then times body least
    else
      all [if least = 0 then take 1 0 else times body least, take 1 0,
        times (all [take 1 0, body, take 0 8]) (most - least)]

def ofBranches : List Room → Room
  | first :: second :: more =>
    all (first :: second :: take 2 8 :: more.flatMap fun branch => [branch, take 0 4])
  | branches => all branches

end Room

namespace Expression

def letters? : Expression → Option (List Char)
  | text letters => some letters
  | _ => none

mutual

def room (direction : Direction) : Expression → Room
  | empty => .take 1 0
  | text letters => .take ((letters.map Char.utf8Size).foldr (· + ·) 0) 0
  | oneOf set _ => .ofSet direction set
  | look _ => .take 1 0
  | repetition body least most _ =>
    .ofRepetition (body.neverEmpty && !body.hasNothing) (room direction body) least most
  | capture body =>
    match direction with
    | .forward => .all [.take 1 0, room .forward body, .take 1 0]
    | .backward => room .backward body
  | sequence parts =>
    match direction with
    | .forward => .all (rooms .forward [] parts).reverse
    | .backward => .all (rooms .backward [] parts)
  | choice branches =>
    match branches.mapM letters? with
    | some texts => .ofTexts direction texts
    | none => .ofBranches (rooms direction [] branches).reverse

/-- The rooms for some expressions, the last one first, in front of others. -/
def rooms (direction : Direction) (done : List Room) : List Expression → List Room
  | [] => done
  | part :: parts => rooms direction (room direction part :: done) parts

end

/-- The room for a machine. It may begin anywhere, unless the expression says where. -/
def machineRoom (direction : Direction) (expression : Expression) : Room :=
  let start := if expression.isAnchored direction then Room.take 1 0 else Room.take 3 16
  let body := match direction with
    | .forward => capture expression
    | .backward => expression
  .all [start, body.room direction, .take 1 0]

def isTooLarge (expression : Expression) : Bool :=
  [Direction.forward, .backward].any fun direction =>
    (expression.machineRoom direction .none).isNone

end Expression

end UnityBuild.Pattern
