import UnityBuild.Expansion

/-!
# Refining a database

A refinement reads all references from one base: the indexing root, made absolute. The root has to
be a directory. Every entry is expanded in turn, and the first failure ends the refinement. The
summary counts entries by what became of them, so the summary of two lists is the sum of their
summaries.
-/

namespace UnityBuild

/-- The numbers of entries read, expanded, kept, and made by expansions. An entry counts as expanded
by what its file looks like, even if nothing was made of it. -/
structure Summary where
  input : Nat
  unified : Nat
  passedThrough : Nat
  synthesized : Nat
  deriving DecidableEq, Repr

namespace Summary

def zero : Summary := ⟨0, 0, 0, 0⟩

instance : Add Summary where
  add left right :=
    ⟨left.input + right.input, left.unified + right.unified,
      left.passedThrough + right.passedThrough, left.synthesized + right.synthesized⟩

def output (summary : Summary) : Nat :=
  summary.passedThrough + summary.synthesized

/-- The summary of one entry that became so many. Summaries add up, so the summary of a list is the
sum of those of its entries. -/
def ofEntry (entry : Entry) (count : Nat) : Summary :=
  if entry.isUnified then ⟨1, 1, 0, count⟩ else ⟨1, 0, count, 0⟩

@[simp] theorem input_add (left right : Summary) :
    (left + right).input = left.input + right.input := rfl

@[simp] theorem unified_add (left right : Summary) :
    (left + right).unified = left.unified + right.unified := rfl

@[simp] theorem passedThrough_add (left right : Summary) :
    (left + right).passedThrough = left.passedThrough + right.passedThrough := rfl

@[simp] theorem synthesized_add (left right : Summary) :
    (left + right).synthesized = left.synthesized + right.synthesized := rfl

@[simp] theorem output_add (left right : Summary) :
    (left + right).output = left.output + right.output := by
  simp only [output, passedThrough_add, synthesized_add]
  omega

@[simp] theorem output_ofEntry (entry : Entry) (count : Nat) :
    (ofEntry entry count).output = count := by
  unfold ofEntry
  split <;> simp [output]

end Summary

structure Refined where
  entries : List Entry
  summary : Summary
  deriving DecidableEq, Repr

/-- Expands entries one after the other. What they become is put together in their order, and the
first failure ends it, with the lines of the entries in front. -/
def Sources.expandAll (sources : Sources) (base : String) : List Entry → Outcome Refined
  | [] => pure ⟨[], .zero⟩
  | entry :: rest => do
    let entries ← sources.expand base entry
    let others ← sources.expandAll base rest
    return ⟨entries ++ others.entries, .ofEntry entry entries.length + others.summary⟩

/-- The normal path of a path, read from the current directory if it is relative. Links on it are
not followed, and it need not exist. -/
def absolutePath (here : Except IoFailure String) (path : String) : Except Failure String :=
  if Path.isAbsolute path then .ok (NormalPath.ofText path).text
  else
    match here with
    | .ok directory => .ok (resolve directory path)
    | .error failure => .error ⟨[.currentDirectory], .io failure⟩

namespace View

def absolute (view : View) (path : String) : Except Failure String :=
  absolutePath view.currentDirectory path

/-- Refines a database below an indexing root. The root is looked at first, as it is given: without
it nothing is read, and no line is logged. -/
def refine (view : View) (root : String) (entries : List Entry) : Outcome Refined :=
  if view.isDirectory root then do
    let base ← Outcome.ofExcept (view.absolute root)
    view.expandAll base entries
  else .fail (.of (.noRoot root))

end View

end UnityBuild
