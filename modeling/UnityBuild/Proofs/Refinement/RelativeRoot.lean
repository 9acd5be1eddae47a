import UnityBuild.Proofs.Path.Joining
import UnityBuild.Refinement

/-!
# Relative roots

A refinement makes its root absolute before it reads any reference from it. It could as well read
the references from a relative root and make absolute what they are resolved to. For resolving is
associative, and to make a path absolute is to resolve it against one directory, which depends on
the root only through the question whether the root is absolute.
-/

namespace UnityBuild

variable {here : Except IoFailure String} {root base : String}

theorem absolutePath_of_isAbsolute {path : String} (absolute : Path.isAbsolute path = true)
    (here : Except IoFailure String) (directory : String) :
    absolutePath here path = .ok (resolve directory path) := by
  unfold absolutePath
  rw [if_pos absolute, resolve_of_isAbsolute absolute]

/-- With a current directory, every path is made absolute by resolving it. -/
theorem absolutePath_ok (directory path : String) :
    absolutePath (.ok directory) path = .ok (resolve directory path) := by
  cases absolute : Path.isAbsolute path with
  | true => exact absolutePath_of_isAbsolute absolute _ directory
  | false =>
    unfold absolutePath
    rw [absolute, if_neg Bool.false_ne_true]

/-- If a root can be made absolute, then one directory does that for the root and for everything
that is resolved against it. -/
theorem exists_directory_of_absolutePath (found : absolutePath here root = .ok base) :
    ∃ directory, base = resolve directory root ∧ ∀ reference,
      absolutePath here (resolve root reference) =
        .ok (resolve directory (resolve root reference)) := by
  cases here with
  | ok directory =>
    rw [absolutePath_ok] at found
    exact ⟨directory, (Except.ok.inj found).symm, fun _ => absolutePath_ok _ _⟩
  | error failure =>
    -- Without a current directory, only an absolute root passes, and any directory will do.
    cases absolute : Path.isAbsolute root with
    | true =>
      rw [absolutePath_of_isAbsolute absolute _ "/"] at found
      exact ⟨"/", (Except.ok.inj found).symm, fun reference =>
        absolutePath_of_isAbsolute (isAbsolute_resolve absolute reference) _ _⟩
    | false =>
      unfold absolutePath at found
      rw [absolute, if_neg Bool.false_ne_true] at found
      cases found

/-- A base may be resolved before or after a reference is read from it. In particular a root may be
made absolute before or after a reference is resolved against it. -/
theorem resolve_assoc :
    (∀ first base reference,
      resolve (resolve first base) reference = resolve first (resolve base reference)) ∧
      ∀ here root base reference, absolutePath here root = .ok base →
        absolutePath here (resolve root reference) = .ok (resolve base reference) := by
  have associative : ∀ first base reference,
      resolve (resolve first base) reference = resolve first (resolve base reference) := by
    intro first base reference
    rw [resolve_eq (resolve first base), NormalPath.ofText_join_resolve, ← resolve_eq]
  refine ⟨associative, fun here root base reference found => ?_⟩
  obtain ⟨directory, rfl, onward⟩ := exists_directory_of_absolutePath found
  rw [onward, associative]

/-- The steps up of the reference take back the name of the root and one of the current directory.
-/
theorem parents_resolve_assoc :
    absolutePath (.ok "/w/x") "../r/" = .ok "/w/r" ∧
    absolutePath (.ok "/w/x") (resolve "../r/" "../../a/./b") =
      .ok (resolve "/w/r" "../../a/./b") ∧
    resolve "../r/" "../../a/./b" = "../../a/b" ∧ resolve "/w/r" "../../a/./b" = "/a/b" := by
  have found : absolutePath (.ok "/w/x") "../r/" = .ok "/w/r" := by with_unfolding_all rfl
  exact ⟨found, resolve_assoc.2 _ _ _ _ found, by with_unfolding_all rfl,
    by with_unfolding_all rfl⟩

end UnityBuild
