import UnityBuild.Proofs.Refinement.Survivors

/-!
# Refining a list in two parts

The entries of a list are expanded one after the other, and nothing passes from one to the next. So
refining two lists as one is refining the first, and then the second unless the first failed: the
refined entries and the log lines follow each other, and the summaries are added up. The root is
looked at before any entry, so without one no list is refined and no source is read.
-/

namespace UnityBuild

namespace Summary

theorem zero_add (summary : Summary) : zero + summary = summary := by
  change Summary.mk _ _ _ _ = _
  simp [zero]

theorem add_assoc (first second third : Summary) :
    first + second + third = first + (second + third) := by
  change Summary.mk _ _ _ _ = Summary.mk _ _ _ _
  simp [Nat.add_assoc]

end Summary

namespace Refined

def append (left right : Refined) : Refined :=
  ⟨left.entries ++ right.entries, left.summary + right.summary⟩

theorem empty_append (right : Refined) : append ⟨[], .zero⟩ right = right := by
  simp [append, Summary.zero_add]

/-- What one entry became joins the entries before it or the entries behind it. -/
theorem append_cons (part : List Entry) (summary : Summary) (left right : Refined) :
    append ⟨part ++ left.entries, summary + left.summary⟩ right =
      ⟨part ++ (append left right).entries, summary + (append left right).summary⟩ := by
  simp [append, Summary.add_assoc]

end Refined

/-- A list is expanded part by part. The second part is expanded only if the first one has
succeeded, and their lines follow each other. -/
theorem Sources.expandAll_append {sources : Sources} {base : String} (left right : List Entry) :
    sources.expandAll base (left ++ right) = do
      let first ← sources.expandAll base left
      let second ← sources.expandAll base right
      return first.append second := by
  induction left with
  | nil =>
    simp only [List.nil_append, expandAll, pure_bind, Refined.empty_append, bind_pure]
  | cons entry rest ih =>
    simp only [List.cons_append, expandAll, ih, bind_assoc, pure_bind, Refined.append_cons]

theorem View.refine_of_no_root {view : View} {root : String}
    (missing : view.isDirectory root = false) (entries : List Entry) :
    view.refine root entries = .fail (.of (.noRoot root)) := by
  rw [refine, if_neg (by simp [missing])]

/-- A list is refined part by part. -/
theorem View.refine_append_eq_bind (view : View) (root : String) (left right : List Entry) :
    view.refine root (left ++ right) = do
      let first ← view.refine root left
      let second ← view.refine root right
      return first.append second := by
  cases directory : view.isDirectory root with
  | false =>
    simp only [refine_of_no_root directory]
    rfl
  | true =>
    cases found : view.absolute root with
    | error failure =>
      simp only [refine, if_pos directory, found]
      rfl
    | ok base =>
      simp only [refine_of_base directory found]
      exact Sources.expandAll_append left right

namespace Outcome

variable {α β γ : Type} {first : Outcome α} {second : Outcome β}

/-- Two successes are joined, and their lines follow each other. -/
theorem bind_bind_of_ok (join : α → β → γ) {value : α} {other : β}
    (h : first.result = .ok value) (h' : second.result = .ok other) :
    (do let left ← first; let right ← second; return join left right) =
      (⟨first.log ++ second.log, .ok (join value other)⟩ : Outcome γ) := by
  obtain ⟨log, result⟩ := first
  obtain ⟨log', result'⟩ := second
  simp only at h h'
  subst h h'
  simp [bind, Outcome.bind, pure, Outcome.pure]

/-- A failure behind a success keeps the lines of both. -/
theorem bind_bind_of_error (join : α → β → γ) {value : α} {failure : Failure}
    (h : first.result = .ok value) (h' : second.result = .error failure) :
    (do let left ← first; let right ← second; return join left right) =
      (⟨first.log ++ second.log, .error failure⟩ : Outcome γ) := by
  obtain ⟨log, result⟩ := first
  obtain ⟨log', result'⟩ := second
  simp only at h h'
  subst h h'
  simp [bind, Outcome.bind]

end Outcome

/-- Refining two lists as one. A failure of the first ends it, with the same lines. A failure of the
second comes behind the lines of the first. Otherwise entries, summaries and lines are put
together. Without a root every list fails alike, with no line and whatever there is to be read. -/
theorem View.refine_append (view : View) (root : String) (left right : List Entry) :
    (∀ failure, (view.refine root left).result = .error failure →
      view.refine root (left ++ right) = ⟨(view.refine root left).log, .error failure⟩) ∧
    (∀ refined failure, (view.refine root left).result = .ok refined →
      (view.refine root right).result = .error failure →
      view.refine root (left ++ right) =
        ⟨(view.refine root left).log ++ (view.refine root right).log, .error failure⟩) ∧
    (∀ refined refined', (view.refine root left).result = .ok refined →
      (view.refine root right).result = .ok refined' →
      view.refine root (left ++ right) =
        ⟨(view.refine root left).log ++ (view.refine root right).log,
          .ok ⟨refined.entries ++ refined'.entries,
            ⟨refined.summary.input + refined'.summary.input,
              refined.summary.unified + refined'.summary.unified,
              refined.summary.passedThrough + refined'.summary.passedThrough,
              refined.summary.synthesized + refined'.summary.synthesized⟩⟩⟩) ∧
    (view.isDirectory root = false → ∀ (sources : Sources) (entries : List Entry),
      ({ view with toSources := sources } : View).refine root entries =
        ⟨[], .error (.of (.noRoot root))⟩) := by
  rw [refine_append_eq_bind]
  refine ⟨fun failure fails => ?_, fun refined failure success fails => ?_,
    fun refined refined' success success' => ?_, fun missing sources entries => ?_⟩
  · exact Outcome.bind_of_error fails _
  · exact Outcome.bind_bind_of_error Refined.append success fails
  · exact Outcome.bind_bind_of_ok Refined.append success success'
  · let other : View := { view with toSources := sources }
    have missing : other.isDirectory root = false := missing
    exact refine_of_no_root missing entries

/-- An entry that stays, with a warning, and then one whose source is missing. -/
theorem oneInclude_refine_append :
    (FileSystem.oneInclude.view.refine "/r" [⟨"/d", "cc", "a.txt"⟩]).result =
        .ok ⟨[⟨"/d", "cc", "/r/a.txt"⟩], ⟨1, 0, 1, 0⟩⟩ ∧
      (FileSystem.oneInclude.view.refine "/r" [⟨"/d", "cc", "UnifiedSource2.c"⟩]).result =
        .error ⟨[.readSource "/r/UnifiedSource2.c"], .io .notFound⟩ ∧
      (FileSystem.oneInclude.view.refine "/r"
          [⟨"/d", "cc", "a.txt"⟩, ⟨"/d", "cc", "UnifiedSource2.c"⟩]).result =
        .error ⟨[.readSource "/r/UnifiedSource2.c"], .io .notFound⟩ := by
  have stays : (FileSystem.oneInclude.view.refine "/r" [⟨"/d", "cc", "a.txt"⟩]).result =
      .ok ⟨[⟨"/d", "cc", "/r/a.txt"⟩], ⟨1, 0, 1, 0⟩⟩ := by
    with_unfolding_all rfl
  have unified : (⟨"/d", "cc", "UnifiedSource2.c"⟩ : Entry).isUnified = true := rfl
  have path : resolve "/r" "UnifiedSource2.c" = "/r/UnifiedSource2.c" := by
    with_unfolding_all rfl
  have read : FileSystem.oneInclude.view.read (resolve "/r" "UnifiedSource2.c") =
      .error (.opening .notFound) := by
    rw [path]
    rfl
  have fails : (FileSystem.oneInclude.view.refine "/r" [⟨"/d", "cc", "UnifiedSource2.c"⟩]).result =
      .error ⟨[.readSource "/r/UnifiedSource2.c"], .io .notFound⟩ := by
    rw [View.refine_of_base rfl oneInclude_absolute, Sources.expandAll,
      Outcome.result_bind_eq_error_iff, Sources.expand, if_pos unified,
      Sources.expandUnified_of_error (.inl rfl) List.not_mem_nil read, path]
    exact .inl rfl
  have both := (View.refine_append FileSystem.oneInclude.view "/r" [⟨"/d", "cc", "a.txt"⟩]
    [⟨"/d", "cc", "UnifiedSource2.c"⟩]).2.1 _ _ stays fails
  exact ⟨stays, fails, congrArg Outcome.result both⟩

end UnityBuild
