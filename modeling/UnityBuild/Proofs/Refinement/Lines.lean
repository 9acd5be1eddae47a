import UnityBuild.Proofs.Expansion.Step
import UnityBuild.Refinement

/-!
# The lines of a refinement

A sequence of steps logs what its steps log, up to the first failure. So if every step logs lines of
one part of the program only, so does the sequence. An expansion has steps of this kind at every
depth, and a refinement adds no line of its own.
-/

namespace UnityBuild

namespace Outcome

variable {α β : Type} {part : Part}

/-- All lines come from one part of the program. Outcomes with this property can be put together,
and contexts do not take it away. -/
def LogsOnly (part : Part) (outcome : Outcome α) : Prop :=
  ∀ line ∈ outcome.log, line.part = part

theorem logsOnly_pure (value : α) : LogsOnly part (pure value : Outcome α) := nofun

theorem logsOnly_fail (failure : Failure) : LogsOnly part (fail failure : Outcome α) := nofun

theorem logsOnly_ofExcept (result : Except Failure α) : LogsOnly part (ofExcept result) := nofun

theorem logsOnly_write (level : Level) (text : String) : LogsOnly part (write level part text) := by
  simp [LogsOnly, write]

theorem logsOnly_writeIf (condition : Bool) (level : Level) (text : String) :
    LogsOnly part (writeIf condition level part text) := by
  cases condition <;> simp [LogsOnly, writeIf]

theorem LogsOnly.within {outcome : Outcome α} (logs : outcome.LogsOnly part) (context : Context) :
    (outcome.within context).LogsOnly part := logs

theorem LogsOnly.bind {first : Outcome α} {next : α → Outcome β} (logs : first.LogsOnly part)
    (others : ∀ value, (next value).LogsOnly part) : (first >>= next).LogsOnly part := by
  cases result : first.result with
  | error failure =>
    rw [bind_of_error result]
    exact logs
  | ok value =>
    rw [LogsOnly, log_bind_of_ok result]
    intro line member
    rcases List.mem_append.mp member with member | member
    · exact logs line member
    · exact others value line member

end Outcome

open Outcome

namespace Sources

variable {sources : Sources} {base : String}

/-- The loop over the includes of a source logs lines of its own and those of the calls below. -/
theorem logsOnly_expandIncludes {chain : List String} {path : String} {entry : Entry}
    {included : List String}
    (known : ∀ path ∈ included, nestedPath base path ∈ sources.candidates base)
    (below : ∀ reference ∈ included, ∀ known,
      (sources.expandUnified base chain (entry.forInclude base reference) known).LogsOnly
        .expansion) :
    (sources.expandIncludes base chain path entry included known).LogsOnly .expansion := by
  induction included with
  | nil =>
    rw [expandIncludes_nil]
    exact logsOnly_pure _
  | cons first rest ih =>
    have others := ih (fun path member => known path (.tail _ member))
      fun reference member => below reference (.tail _ member)
    cases named : first.isEmpty with
    | true =>
      rw [expandIncludes_cons_of_empty known named]
      exact (logsOnly_write _ _).bind fun _ => others
    | false =>
      rw [expandIncludes_cons_of_named known named]
      refine LogsOnly.bind ((logsOnly_writeIf _ _ _).bind fun _ => ?_) fun part =>
        others.bind fun _ => logsOnly_pure _
      split
      · exact (below first (.head _) _).within _
      · exact logsOnly_pure _

/-- The induction is on the chain, and the loop at each source is covered by the lemma above. -/
theorem logsOnly_expandUnified {chain : List String} {entry : Entry}
    (known : sources.Known base chain entry) :
    (sources.expandUnified base chain entry known).LogsOnly .expansion := by
  refine expansion_induction (motive := fun chain entry => ∀ known,
    (sources.expandUnified base chain entry known).LogsOnly .expansion)
    (fun chain entry _ ih known => ?_) known known
  by_cases fresh : resolve base entry.file ∈ chain
  · rw [expandUnified_of_mem known fresh]
    exact logsOnly_fail _
  cases read : sources.read (resolve base entry.file) with
  | error failure =>
    rw [expandUnified_of_error known fresh read]
    exact logsOnly_fail _
  | ok bytes =>
    rw [expandUnified_of_ok known fresh read]
    refine (logsOnly_expandIncludes _ (ih bytes fresh read)).bind fun entries => ?_
    exact (logsOnly_write _ _).bind fun _ => logsOnly_pure _

theorem logsOnly_expand (entry : Entry) : (sources.expand base entry).LogsOnly .expansion := by
  rw [expand]
  split
  · exact logsOnly_expandUnified _
  · exact (logsOnly_writeIf _ _ _).bind fun _ => logsOnly_pure _

theorem logsOnly_expandAll (entries : List Entry) :
    (sources.expandAll base entries).LogsOnly .expansion := by
  induction entries with
  | nil => exact logsOnly_pure _
  | cons entry rest ih =>
    exact (logsOnly_expand entry).bind fun _ => ih.bind fun _ => logsOnly_pure _

end Sources

/-- A refinement logs what its expansions log, whether it succeeds or fails. -/
theorem View.logsOnly_refine (view : View) (root : String) (entries : List Entry) :
    (view.refine root entries).LogsOnly .expansion := by
  rw [refine]
  split
  · exact (logsOnly_ofExcept _).bind fun base => view.logsOnly_expandAll entries
  · exact logsOnly_fail _

end UnityBuild
