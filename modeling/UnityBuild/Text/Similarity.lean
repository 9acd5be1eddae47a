/-!
# Similar words

The similarity of two words is a fraction between zero and one. It counts the letters that both
words have at about the same place, in each word and in the same order, and gives the words a
tenth of what they lack for every letter of their common beginning.
-/

namespace UnityBuild.Text

/-- A part of a whole. -/
structure Share where
  part : Nat
  whole : Nat
  deriving DecidableEq, Repr

namespace Share

def less (share other : Share) : Bool :=
  share.part * other.whole < other.part * share.whole

end Share

/-- The letters of a word that were not met yet, the place of the last one that was, and how many
were met, in all and before the one met last. -/
structure Meeting where
  unmet : List (Char × Nat)
  last : Nat
  count : Nat
  crossed : Nat

namespace Meeting

/-- Meets a letter of the other word, if the same letter is not too far away. -/
def step (range : Nat) (meeting : Meeting) (letter : Char × Nat) : Meeting :=
  match meeting.unmet.find? fun other =>
      other.1 == letter.1 && letter.2 ≤ other.2 + range && other.2 ≤ letter.2 + range with
  | none => meeting
  | some met =>
    ⟨meeting.unmet.erase met, met.2, meeting.count + 1,
      meeting.crossed + if met.2 < meeting.last then 1 else 0⟩

end Meeting

/-- The length of the common beginning of two words. -/
def commonFront : List Char → List Char → Nat
  | letter :: rest, other :: others => if letter = other then commonFront rest others + 1 else 0
  | _, _ => 0

def similarity (word other : List Char) : Share :=
  let range := max word.length other.length / 2 - 1
  let meeting := word.zipIdx.foldl (Meeting.step range) ⟨other.zipIdx, 0, 0, 0⟩
  let count := meeting.count
  if count = 0 then ⟨0, 1⟩
  else
    let whole := 3 * word.length * other.length * count
    let part := count * count * (word.length + other.length)
      + (count - meeting.crossed) * word.length * other.length
    ⟨min (10 * whole) (10 * part + commonFront word other * (whole - part)), 10 * whole⟩

/-- The word that is most similar to a given one, and the first of several, if its similarity is
more than four fifths. -/
def mostSimilar? (word : List Char) (known : List String) : Option String :=
  (known.foldl (fun (best : Option String × Share) name =>
    let share := similarity word name.toList
    if best.2.less share then (some name, share) else best) (none, ⟨4, 5⟩)).1

end UnityBuild.Text
