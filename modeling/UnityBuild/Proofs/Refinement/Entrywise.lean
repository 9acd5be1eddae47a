import UnityBuild.Proofs.Expansion.Step
import UnityBuild.Refinement

/-!
# A refinement, entry by entry

A refinement that succeeds has found its root to be a directory, has made it absolute, and has
expanded every entry on its own: no entry sees what the others expand into. On a file system the
base is always absolute, since the directory that relative roots are read from has an absolute path.
-/

namespace UnityBuild

/-- The sum of the summaries of entries and the parts that they became. -/
def Summary.total (entries : List Entry) (parts : List (List Entry)) : Summary :=
  (List.zipWith (fun entry part => ofEntry entry part.length) entries parts).foldr (· + ·) zero

@[simp] theorem Summary.total_cons (entry : Entry) (part : List Entry) (entries : List Entry)
    (parts : List (List Entry)) :
    total (entry :: entries) (part :: parts) =
      ofEntry entry part.length + total entries parts := rfl

/-- A list of entries expands when each one does, and the parts are put together in order. -/
theorem Sources.expandAll_eq_ok_iff {sources : Sources} {base : String} {entries : List Entry}
    {refined : Refined} :
    (sources.expandAll base entries).result = .ok refined ↔
      ∃ parts, List.Forall₂ (fun entry part => (sources.expand base entry).result = .ok part)
        entries parts ∧ refined = ⟨parts.flatten, .total entries parts⟩ := by
  induction entries generalizing refined with
  | nil =>
    simp only [expandAll, Outcome.result_pure, Except.ok.injEq, List.forall₂_nil_left_iff,
      exists_eq_left]
    exact eq_comm
  | cons entry rest ih =>
    simp only [expandAll, Outcome.result_bind_eq_ok_iff, Outcome.result_pure, Except.ok.injEq, ih,
      List.forall₂_cons_left_iff]
    constructor
    · rintro ⟨part, first, _, ⟨parts, others, rfl⟩, rfl⟩
      exact ⟨part :: parts, ⟨part, parts, first, others, rfl⟩, rfl⟩
    · rintro ⟨_, ⟨part, parts, first, others, rfl⟩, rfl⟩
      exact ⟨part, first, _, ⟨parts, others, rfl⟩, rfl⟩

/-- With its root found, a refinement is the expansion of the list. -/
theorem View.refine_of_base {view : View} {root base : String}
    (directory : view.isDirectory root = true) (found : view.absolute root = .ok base)
    (entries : List Entry) : view.refine root entries = view.expandAll base entries := by
  rw [View.refine, if_pos directory, found]
  exact pure_bind base _

/-- What has to hold for a refinement to succeed: its root is a directory, there is a base to read
references from, and the expansion of all entries succeeds. -/
theorem View.refine_eq_ok_iff {view : View} {root : String} {entries : List Entry}
    {refined : Refined} :
    (view.refine root entries).result = .ok refined ↔
      view.isDirectory root = true ∧ ∃ base, view.absolute root = .ok base ∧
        (view.expandAll base entries).result = .ok refined := by
  constructor
  · intro success
    rw [View.refine] at success
    split at success
    · rename_i directory
      exact ⟨directory, Outcome.result_bind_eq_ok_iff.mp success⟩
    · cases success
  · rintro ⟨directory, base, found, success⟩
    rw [refine_of_base directory found, success]

/-- The base of a refinement is absolute, whether its root is or not. -/
theorem FileSystem.isAbsolute_of_absolute {fs : FileSystem} {root base : String}
    (h : fs.view.absolute root = .ok base) : Path.isAbsolute base = true := by
  unfold View.absolute absolutePath at h
  split at h
  · rename_i absolute
    cases h
    rw [← resolve_of_isAbsolute absolute root]
    exact isAbsolute_resolve absolute root
  · split at h
    · rename_i directory here
      have above : Path.isAbsolute directory = true := by
        simp only [FileSystem.view, FileSystem.currentDirectory] at here
        split at here
        · cases here
          exact NormalPath.isAbsolute_text_root fs.here.names
        · cases here
      cases h
      exact isAbsolute_resolve above root
    · cases h

end UnityBuild
