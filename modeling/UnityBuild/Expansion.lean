import UnityBuild.Entry
import UnityBuild.Outcome
import UnityBuild.Sources

/-!
# Expanding entries

An entry whose file is not unified stays, with its file read from the base. An entry whose file is
unified is replaced by one entry for each file that it includes, in textual order; included files
that are unified themselves are expanded in place.

The chain holds the paths of the unified sources that are being expanded, the outermost first. A
source that is on the chain already is a cycle. Otherwise one more candidate is on the chain when
its includes are expanded, so the recursion is as deep as there are candidates, at most, plus one
for the source that the expansion starts with.
-/

namespace UnityBuild

namespace Sources

/-- The number of steps by which a chain can still grow. It is the measure of the recursion:
candidates that are not on the chain yet, and one step for the source that comes first. -/
def room (sources : Sources) (base : String) (chain : List String) : Nat :=
  ((sources.candidates base).filter (· ∉ chain)).length + if chain = [] then 1 else 0

/-- A chain has less room when a path is added to it. -/
theorem room_append_lt {sources : Sources} {base path : String} {chain : List String}
    (fresh : path ∉ chain) (known : chain = [] ∨ path ∈ sources.candidates base) :
    sources.room base (chain ++ [path]) < sources.room base chain := by
  have split : (sources.candidates base).filter (· ∉ chain ++ [path]) =
      ((sources.candidates base).filter (· ∉ chain)).filter (· ≠ path) := by
    rw [List.filter_filter]
    refine List.filter_congr fun other _ => ?_
    simp [and_comm]
  have shorter := List.length_filter_le (· ≠ path)
    ((sources.candidates base).filter (· ∉ chain))
  simp only [room, split]
  rcases known with rfl | known
  · simp only [List.nil_append, List.cons_ne_self, if_true, if_false]
    omega
  · have : (((sources.candidates base).filter (· ∉ chain)).filter (· ≠ path)).length <
        ((sources.candidates base).filter (· ∉ chain)).length := by
      refine List.length_filter_lt_length_iff_exists.2 ⟨path, ?_, by simp⟩
      simp [known, fresh]
    have : chain ++ [path] ≠ [] := by simp
    simp only [this, if_false]
    omega

def includedWarning (included includer : Entry) : String :=
  "'" ++ included.file ++ "' (included from '" ++ includer.file
    ++ "') doesn't look like a C-family source file"

def passedWarning (entry : Entry) : String :=
  "'" ++ entry.file ++ "' doesn't look like a C-family source file"

def emptyWarning (path : String) : String :=
  "Ignoring empty include directive in '" ++ path ++ "'"

def expandedNote (entry : Entry) (count : Nat) : String :=
  "'" ++ entry.file ++ "' expanded into " ++ toString count ++ " compile command(s)"

theorem resolve_forInclude_mem {sources : Sources} {base path : String}
    (h : nestedPath base path ∈ sources.candidates base) (entry : Entry) :
    resolve base (entry.forInclude base path).file ∈ sources.candidates base := by
  rw [Entry.forInclude_file]
  exact h

mutual

/-- Expands the entry of a unified source below the sources of the chain. The source is looked for
on the chain before it is read, so a cycle is found without reading a source again, and the line
about the number of entries comes behind the lines of all that is included. -/
def expandUnified (sources : Sources) (base : String) (chain : List String) (entry : Entry)
    (_known : chain = [] ∨ resolve base entry.file ∈ sources.candidates base) :
    Outcome (List Entry) :=
  let path := resolve base entry.file
  if _fresh : path ∈ chain then .fail (.of (.cycle (chain.getLast?.getD "") path))
  else
    match read : sources.read path with
    | .error failure => .fail ⟨[.readSource path], .io failure.reason⟩
    | .ok bytes => do
      let entries ← sources.expandIncludes base (chain ++ [path]) path entry (includedPaths bytes)
        (nestedPath_mem_candidates read base)
      Outcome.write .debug .expansion (expandedNote entry entries.length)
      return entries
termination_by (sources.room base chain, 0)
decreasing_by exact Prod.Lex.left _ _ (room_append_lt _fresh _known)

/-- Expands the paths that a unified source includes, one after the other. The source is the last
one of the chain. The first failure ends the loop and keeps the lines that were logged up to it,
with the context of the include that has failed. -/
def expandIncludes (sources : Sources) (base : String) (chain : List String) (path : String)
    (entry : Entry) (included : List String)
    (known : ∀ path ∈ included, nestedPath base path ∈ sources.candidates base) :
    Outcome (List Entry) :=
  match included, known with
  | [], _ => pure []
  | first :: rest, known =>
    if first.isEmpty then do
      Outcome.write .warn .expansion (emptyWarning path)
      sources.expandIncludes base chain path entry rest fun path h => known path (.tail _ h)
    else do
      let here := entry.forInclude base first
      Outcome.writeIf (!here.isRecognized) .warn .expansion (includedWarning here entry)
      let entries ←
        if here.isUnified then
          (sources.expandUnified base chain here
            (.inr (resolve_forInclude_mem (known first (.head _)) entry))).within
              (.expand here.file path)
        else pure [here]
      let others ← sources.expandIncludes base chain path entry rest
        fun path h => known path (.tail _ h)
      return entries ++ others
termination_by (sources.room base chain, included.length + 1)
decreasing_by
  · exact Prod.Lex.right _ (by simp)
  · exact Prod.Lex.right _ (by simp)
  · exact Prod.Lex.right _ (by simp)

end

/-- Expands one entry of a database. Its file is classified as it is written, and resolved only
afterwards: an entry that is plain as it stands is passed on, even if its file resolves to a unified
source. -/
def expand (sources : Sources) (base : String) (entry : Entry) : Outcome (List Entry) :=
  if entry.isUnified then sources.expandUnified base [] entry (.inl rfl)
  else do
    Outcome.writeIf (!entry.isRecognized) .warn .expansion (passedWarning entry)
    return [entry.resolved base]

end Sources

end UnityBuild
