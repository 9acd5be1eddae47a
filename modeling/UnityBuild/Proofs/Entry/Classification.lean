import UnityBuild.Entry
import UnityBuild.Proofs.Path.Resolution

/-!
# Classification before and after resolution

Whether an entry is unified is read off the base name of its file. Resolving keeps a base name, so
the answer changes for an entry without one only: its file ends in `".."` or has no step at all, and
the path it is read at may have any base name. Such an entry is disguised when that name is unified.
-/

namespace UnityBuild

def Path.isUnified (path : String) : Bool :=
  Entry.unifiedMark.toList.isPrefixOf (Path.baseName path).toList

namespace Entry

/-- The file has no base name, and it is read at the path of a unified source. -/
def IsDisguised (entry : Entry) (base : String) : Prop :=
  Path.baseName? entry.file = none ∧ Path.isUnified (resolve base entry.file) = true

instance (entry : Entry) (base : String) : Decidable (entry.IsDisguised base) :=
  inferInstanceAs (Decidable (_ ∧ _))

theorem isUnified_eq (entry : Entry) : entry.isUnified = Path.isUnified entry.file := rfl

theorem isUnified_of_baseName?_eq_none {entry : Entry} (h : Path.baseName? entry.file = none) :
    entry.isUnified = false := by
  have unnamed : Path.baseName entry.file = "" := by
    simp [Path.baseName, h]
  rw [isUnified_eq, Path.isUnified, unnamed]
  decide

/-- Resolving changes the classification of disguised entries only: a file with a base name keeps
it, and a file without one becomes what it resolves to. -/
theorem isUnified_resolve_eq_true_iff {base : String} (absolute : Path.isAbsolute base = true)
    (entry : Entry) :
    Path.isUnified (resolve base entry.file) = true ↔
      entry.isUnified = true ∨ entry.IsDisguised base := by
  cases named : Path.baseName? entry.file with
  | none => simp [IsDisguised, named, isUnified_of_baseName?_eq_none named]
  | some name =>
    have kept := baseName?_resolve absolute named
    simp [IsDisguised, isUnified_eq, Path.isUnified, Path.baseName, named, kept]

end Entry

end UnityBuild
