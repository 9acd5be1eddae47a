import Mathlib.Data.List.Chain
import Mathlib.Data.List.Dedup
import UnityBuild.Proofs.Expansion.Graph

/-!
# The stack of an expansion

The sources that are being expanded are kept on one stack, which all calls share. A call pushes its
source, goes through what the source includes, and pops it at the end. A failure goes past the pop
and leaves the stack as it was when the failure came up.

The rules here follow the calls from the stack that each finds to the stack that it leaves. Nothing
in them makes the recursion end: that every call has a finite run is proved. The run has the outcome
of the expansion, and the stacks in it hold distinct sources, each of which leads to the next. So no
stack is longer than there are paths to be read at, but for the source at its bottom.
-/

namespace UnityBuild

namespace Sources

/-- What a call has to do: to expand an entry, or the includes of a source that are left. -/
inductive Task where
  | entry (entry : Entry)
  | includes (path : String) (entry : Entry) (included : List String)

/-- A call that came to an end, with the stack that it found and the one that it left. -/
structure Call where
  found : List String
  task : Task
  outcome : Outcome (List Entry)
  left : List String

/-- The call had this to do, on this stack. -/
def Call.Asks (call : Call) (stack : List String) (task : Task) : Prop :=
  call.found = stack ∧ call.task = task

/-- What an entry comes to that stays. -/
def passed (base : String) (entry : Entry) : Outcome (List Entry) := do
  Outcome.writeIf (!entry.isRecognized) .warn .expansion (passedWarning entry)
  return [entry.resolved base]

/-- What an entry comes to when its source was gone through. -/
def noted (entry : Entry) (inner : Outcome (List Entry)) : Outcome (List Entry) := do
  let entries ← inner
  Outcome.write .debug .expansion (expandedNote entry entries.length)
  return entries

/-- What an empty include and those behind it come to. -/
def ignored (path : String) (others : Outcome (List Entry)) : Outcome (List Entry) := do
  Outcome.write .warn .expansion (emptyWarning path)
  others

/-- What an include comes to for which an entry was made. -/
def announced (entry here : Entry) (part : Outcome (List Entry)) : Outcome (List Entry) := do
  Outcome.writeIf (!here.isRecognized) .warn .expansion (includedWarning here entry)
  part

/-- What an include and those behind it come to. -/
def followed (part others : Outcome (List Entry)) : Outcome (List Entry) := do
  let part ← part
  let others ← others
  return part ++ others

/-- The run of a call, with the calls below it in the order in which they are made. -/
inductive Runs (sources : Sources) (base : String) : Call → List Call → Prop
  | stays {stack : List String} {entry : Entry} (plain : entry.isUnified = false) :
      Runs sources base ⟨stack, .entry entry, passed base entry, stack⟩ []
  | cycle {stack : List String} {entry : Entry} (unified : entry.isUnified = true)
      (member : resolve base entry.file ∈ stack) :
      Runs sources base ⟨stack, .entry entry,
        .fail (.of (.cycle (stack.getLast?.getD "") (resolve base entry.file))), stack⟩ []
  | unread {stack : List String} {entry : Entry} {failure : ReadFailure}
      (unified : entry.isUnified = true) (fresh : resolve base entry.file ∉ stack)
      (read : sources.read (resolve base entry.file) = .error failure) :
      Runs sources base ⟨stack, .entry entry,
        .fail ⟨[.readSource (resolve base entry.file)], .io failure.reason⟩, stack⟩ []
  /-- The source is pushed, gone through and popped. -/
  | popped {stack : List String} {entry : Entry} {bytes : Bytes} {inner : Call}
      {below : List Call} {entries : List Entry} (unified : entry.isUnified = true)
      (fresh : resolve base entry.file ∉ stack)
      (read : sources.read (resolve base entry.file) = .ok bytes)
      (asks : inner.Asks (stack ++ [resolve base entry.file])
        (.includes (resolve base entry.file) entry (includedPaths bytes)))
      (run : Runs sources base inner below) (success : inner.outcome.result = .ok entries) :
      Runs sources base ⟨stack, .entry entry, noted entry inner.outcome, inner.left.dropLast⟩
        (inner :: below)
  /-- A failure goes past the pop. -/
  | broken {stack : List String} {entry : Entry} {bytes : Bytes} {inner : Call}
      {below : List Call} {failure : Failure} (unified : entry.isUnified = true)
      (fresh : resolve base entry.file ∉ stack)
      (read : sources.read (resolve base entry.file) = .ok bytes)
      (asks : inner.Asks (stack ++ [resolve base entry.file])
        (.includes (resolve base entry.file) entry (includedPaths bytes)))
      (run : Runs sources base inner below) (failed : inner.outcome.result = .error failure) :
      Runs sources base ⟨stack, .entry entry, noted entry inner.outcome, inner.left⟩
        (inner :: below)
  | done {stack : List String} {path : String} {entry : Entry} :
      Runs sources base ⟨stack, .includes path entry [], pure [], stack⟩ []
  | skipped {stack : List String} {path first : String} {entry : Entry} {rest : List String}
      {others : Call} {below : List Call} (empty : first.isEmpty = true)
      (asks : others.Asks stack (.includes path entry rest))
      (run : Runs sources base others below) :
      Runs sources base ⟨stack, .includes path entry (first :: rest),
        ignored path others.outcome, others.left⟩ (others :: below)
  | added {stack : List String} {path first : String} {entry : Entry} {rest : List String}
      {others : Call} {below : List Call} (named : first.isEmpty = false)
      (plain : (entry.forInclude base first).isUnified = false)
      (asks : others.Asks stack (.includes path entry rest))
      (run : Runs sources base others below) :
      Runs sources base ⟨stack, .includes path entry (first :: rest),
        followed (announced entry (entry.forInclude base first)
          (pure [entry.forInclude base first])) others.outcome,
        others.left⟩ (others :: below)
  /-- The loop goes on with the stack that a call has left. -/
  | called {stack : List String} {path first : String} {entry : Entry} {rest : List String}
      {inner others : Call} {below below' : List Call} {entries : List Entry}
      (named : first.isEmpty = false) (unified : (entry.forInclude base first).isUnified = true)
      (asks : inner.Asks stack (.entry (entry.forInclude base first)))
      (run : Runs sources base inner below) (success : inner.outcome.result = .ok entries)
      (asks' : others.Asks inner.left (.includes path entry rest))
      (run' : Runs sources base others below') :
      Runs sources base ⟨stack, .includes path entry (first :: rest),
        followed (announced entry (entry.forInclude base first)
          (inner.outcome.within (.expand (entry.forInclude base first).file path))) others.outcome,
        others.left⟩ (inner :: below ++ others :: below')
  | failed {stack : List String} {path first : String} {entry : Entry} {rest : List String}
      {inner : Call} {below : List Call} {failure : Failure} (named : first.isEmpty = false)
      (unified : (entry.forInclude base first).isUnified = true)
      (asks : inner.Asks stack (.entry (entry.forInclude base first)))
      (run : Runs sources base inner below) (failed : inner.outcome.result = .error failure) :
      Runs sources base ⟨stack, .includes path entry (first :: rest),
        announced entry (entry.forInclude base first)
          (inner.outcome.within (.expand (entry.forInclude base first).file path)),
        inner.left⟩ (inner :: below)

variable {sources : Sources} {base : String}

/-! ## Outcomes -/

theorem result_ignored (path : String) (others : Outcome (List Entry)) :
    (ignored path others).result = others.result :=
  Outcome.result_bind_of_ok (Outcome.result_write ..) _

theorem result_announced (entry here : Entry) (part : Outcome (List Entry)) :
    (announced entry here part).result = part.result :=
  Outcome.result_bind_of_ok (Outcome.result_writeIf ..) _

theorem exists_of_noted_eq_ok {entry : Entry} {inner : Outcome (List Entry)} {entries : List Entry}
    (success : (noted entry inner).result = .ok entries) : ∃ more, inner.result = .ok more := by
  obtain ⟨more, same, _⟩ := Outcome.result_bind_eq_ok_iff.mp success
  exact ⟨more, same⟩

theorem exists_of_followed_eq_ok {part others : Outcome (List Entry)} {entries : List Entry}
    (success : (followed part others).result = .ok entries) :
    ∃ more, others.result = .ok more := by
  obtain ⟨_, _, rest⟩ := Outcome.result_bind_eq_ok_iff.mp success
  obtain ⟨more, other, _⟩ := Outcome.result_bind_eq_ok_iff.mp rest
  exact ⟨more, other⟩

/-- A call that succeeds leaves the stack that it found: every source that it pushes is popped again
when all that it includes has succeeded. -/
theorem Runs.left_eq_found {call : Call} {below : List Call} (run : sources.Runs base call below)
    {entries : List Entry} (success : call.outcome.result = .ok entries) :
    call.left = call.found := by
  induction run generalizing entries with
  | stays => rfl
  | cycle => rfl
  | unread => rfl
  | popped _ _ _ asks _ success' ih =>
    show List.dropLast _ = _
    rw [ih success', asks.1, List.dropLast_concat]
  | broken _ _ _ _ _ failed =>
    obtain ⟨more, inner⟩ := exists_of_noted_eq_ok success
    cases failed.symm.trans inner
  | done => rfl
  | skipped _ asks _ ih =>
    rw [result_ignored] at success
    rw [ih success, asks.1]
  | added _ _ asks _ ih =>
    obtain ⟨more, other⟩ := exists_of_followed_eq_ok success
    rw [ih other, asks.1]
  | called _ _ asks _ success' asks' _ ih ih' =>
    obtain ⟨more, other⟩ := exists_of_followed_eq_ok success
    rw [ih' other, asks'.1, ih success', asks.1]
  | failed _ _ _ _ failed =>
    rw [result_announced, Outcome.result_within_eq_ok_iff] at success
    cases failed.symm.trans success

theorem Call.Asks.same {call other : Call} {stack : List String} {task : Task}
    (asks : call.Asks stack task) (asks' : other.Asks stack task) :
    other.Asks call.found call.task := by
  obtain ⟨rfl, rfl⟩ := asks
  exact asks'

/-- A call has one run. Which rule applies is decided by the entry, the stack and what is read, and
so are all calls that the rule asks for. -/
theorem Runs.unique {call other : Call} {below more : List Call}
    (run : sources.Runs base call below) (run' : sources.Runs base other more)
    (asks : other.Asks call.found call.task) : other = call ∧ more = below := by
  -- The rule of the second run is that of the first, since what they test excludes each other.
  induction run generalizing other more with
  | stays plain =>
    cases run' with
    | stays =>
      obtain ⟨rfl, ⟨⟩⟩ := asks
      exact ⟨rfl, rfl⟩
    | _ => obtain ⟨rfl, task⟩ := asks; cases task <;> simp_all
  | cycle unified member =>
    cases run' with
    | cycle =>
      obtain ⟨rfl, ⟨⟩⟩ := asks
      exact ⟨rfl, rfl⟩
    | _ => obtain ⟨rfl, task⟩ := asks; cases task <;> simp_all
  | unread unified fresh read =>
    cases run' with
    | unread _ _ read' =>
      obtain ⟨rfl, ⟨⟩⟩ := asks
      cases read.symm.trans read'
      exact ⟨rfl, rfl⟩
    | _ => obtain ⟨rfl, task⟩ := asks; cases task <;> simp_all
  | popped unified fresh read asks' _ success ih =>
    cases run' with
    | popped _ _ read' asks'' run' =>
      obtain ⟨rfl, ⟨⟩⟩ := asks
      cases read.symm.trans read'
      obtain ⟨rfl, rfl⟩ := ih run' (asks'.same asks'')
      exact ⟨rfl, rfl⟩
    | broken _ _ read' asks'' run' failed =>
      obtain ⟨rfl, ⟨⟩⟩ := asks
      cases read.symm.trans read'
      obtain ⟨rfl, rfl⟩ := ih run' (asks'.same asks'')
      cases success.symm.trans failed
    | _ => obtain ⟨rfl, task⟩ := asks; cases task <;> simp_all
  | broken unified fresh read asks' _ failed ih =>
    cases run' with
    | popped _ _ read' asks'' run' success =>
      obtain ⟨rfl, ⟨⟩⟩ := asks
      cases read.symm.trans read'
      obtain ⟨rfl, rfl⟩ := ih run' (asks'.same asks'')
      cases success.symm.trans failed
    | broken _ _ read' asks'' run' =>
      obtain ⟨rfl, ⟨⟩⟩ := asks
      cases read.symm.trans read'
      obtain ⟨rfl, rfl⟩ := ih run' (asks'.same asks'')
      exact ⟨rfl, rfl⟩
    | _ => obtain ⟨rfl, task⟩ := asks; cases task <;> simp_all
  | done =>
    cases run' with
    | done =>
      obtain ⟨rfl, ⟨⟩⟩ := asks
      exact ⟨rfl, rfl⟩
    | _ => obtain ⟨rfl, task⟩ := asks; cases task
  | skipped empty asks' _ ih =>
    cases run' with
    | skipped _ asks'' run' =>
      obtain ⟨rfl, ⟨⟩⟩ := asks
      obtain ⟨rfl, rfl⟩ := ih run' (asks'.same asks'')
      exact ⟨rfl, rfl⟩
    | _ => obtain ⟨rfl, task⟩ := asks; cases task <;> simp_all
  | added named plain asks' _ ih =>
    cases run' with
    | added _ _ asks'' run' =>
      obtain ⟨rfl, ⟨⟩⟩ := asks
      obtain ⟨rfl, rfl⟩ := ih run' (asks'.same asks'')
      exact ⟨rfl, rfl⟩
    | _ => obtain ⟨rfl, task⟩ := asks; cases task <;> simp_all
  | called named unified asks₁ _ success asks₂ _ ih ih' =>
    cases run' with
    | called _ _ asks₁' run₁ _ asks₂' run₂ =>
      obtain ⟨rfl, ⟨⟩⟩ := asks
      obtain ⟨rfl, rfl⟩ := ih run₁ (asks₁.same asks₁')
      obtain ⟨rfl, rfl⟩ := ih' run₂ (asks₂.same asks₂')
      exact ⟨rfl, rfl⟩
    | failed _ _ asks₁' run₁ failed =>
      obtain ⟨rfl, ⟨⟩⟩ := asks
      obtain ⟨rfl, rfl⟩ := ih run₁ (asks₁.same asks₁')
      cases success.symm.trans failed
    | _ => obtain ⟨rfl, task⟩ := asks; cases task <;> simp_all
  | failed named unified asks' _ failed ih =>
    cases run' with
    | called _ _ asks'' run' success =>
      obtain ⟨rfl, ⟨⟩⟩ := asks
      obtain ⟨rfl, rfl⟩ := ih run' (asks'.same asks'')
      cases success.symm.trans failed
    | failed _ _ asks'' run' =>
      obtain ⟨rfl, ⟨⟩⟩ := asks
      obtain ⟨rfl, rfl⟩ := ih run' (asks'.same asks'')
      exact ⟨rfl, rfl⟩
    | _ => obtain ⟨rfl, task⟩ := asks; cases task <;> simp_all

/-- What a call has to come to, by the expansion below the stack that it found. -/
def Call.Agrees (sources : Sources) (base : String) (call : Call) : Prop :=
  match call.task with
  | .entry entry => ∀ known, call.outcome =
      if entry.isUnified then sources.expandUnified base call.found entry known
      else passed base entry
  | .includes path entry included => ∀ known,
      call.outcome = sources.expandIncludes base call.found path entry included known

theorem Call.Agrees.entry {call : Call} {stack : List String} {entry : Entry}
    (agrees : call.Agrees sources base) (asks : call.Asks stack (.entry entry))
    (unified : entry.isUnified = true) (known : sources.Known base stack entry) :
    call.outcome = sources.expandUnified base stack entry known := by
  obtain ⟨rfl, task⟩ := asks
  simp only [Agrees, task, unified, if_true] at agrees
  exact agrees known

theorem Call.Agrees.includes {call : Call} {stack : List String} {path : String} {entry : Entry}
    {included : List String} (agrees : call.Agrees sources base)
    (asks : call.Asks stack (.includes path entry included))
    (known : ∀ path ∈ included, nestedPath base path ∈ sources.candidates base) :
    call.outcome = sources.expandIncludes base stack path entry included known := by
  obtain ⟨rfl, task⟩ := asks
  simp only [Agrees, task] at agrees
  exact agrees known

theorem expandNamed_of_plain {chain : List String} {path reference : String} {entry : Entry}
    (known : sources.Known base chain (entry.forInclude base reference))
    (plain : (entry.forInclude base reference).isUnified = false) :
    sources.expandNamed base chain path entry reference known =
      announced entry (entry.forInclude base reference)
        (pure [entry.forInclude base reference]) := by
  simp only [expandNamed, plain, Bool.false_eq_true, if_false, announced]

theorem expandNamed_of_unified {chain : List String} {path reference : String} {entry : Entry}
    (known : sources.Known base chain (entry.forInclude base reference))
    (unified : (entry.forInclude base reference).isUnified = true) :
    sources.expandNamed base chain path entry reference known =
      announced entry (entry.forInclude base reference)
        ((sources.expandUnified base chain (entry.forInclude base reference) known).within
          (.expand (entry.forInclude base reference).file path)) := by
  simp only [expandNamed, unified, if_true, announced]

theorem followed_of_error {part : Outcome (List Entry)} {failure : Failure}
    (failed : part.result = .error failure) (others : Outcome (List Entry)) :
    followed part others = part := by
  rw [followed, Outcome.bind_of_error failed, ← failed]

/-- A run has the outcome of the expansion, with the stack that a call finds in the place of the
chain. Passing the chain down and taking pushed sources back come to the same. -/
theorem Runs.agrees {call : Call} {below : List Call} (run : sources.Runs base call below) :
    call.Agrees sources base := by
  induction run with
  | stays plain =>
    intro known
    rw [if_neg (by simp [plain])]
  | cycle unified member =>
    intro known
    rw [if_pos unified, expandUnified_of_mem known member]
  | unread unified fresh read =>
    intro known
    rw [if_pos unified, expandUnified_of_error known fresh read]
  | popped unified fresh read asks _ _ ih =>
    intro known
    rw [if_pos unified, expandUnified_of_ok known fresh read,
      ih.includes asks (nestedPath_mem_candidates read base), noted]
  | broken unified fresh read asks _ _ ih =>
    intro known
    rw [if_pos unified, expandUnified_of_ok known fresh read,
      ih.includes asks (nestedPath_mem_candidates read base), noted]
  | done =>
    intro known
    rw [expandIncludes_nil known]
  | skipped empty asks _ ih =>
    intro known
    rw [expandIncludes_cons_of_empty known empty,
      ih.includes asks fun path member => known path (.tail _ member), ignored]
  | added named plain asks _ ih =>
    intro known
    rw [expandIncludes_cons_of_named known named, expandNamed_of_plain _ plain,
      ih.includes asks fun path member => known path (.tail _ member), followed]
  | called named unified asks run success asks' _ ih ih' =>
    intro known
    rw [run.left_eq_found success, asks.1] at asks'
    rw [expandIncludes_cons_of_named known named, expandNamed_of_unified _ unified,
      ← ih.entry asks unified, ih'.includes asks' fun path member => known path (.tail _ member),
      followed]
  | failed named unified asks _ failed ih =>
    intro known
    rw [expandIncludes_cons_of_named known named, expandNamed_of_unified _ unified,
      ← ih.entry asks unified]
    symm
    apply followed_of_error
    rw [result_announced]
    exact Outcome.result_within_eq_error_iff.mpr ⟨_, failed, rfl⟩

/-- The run of an entry has the outcome of its expansion. -/
theorem Runs.outcome_eq_expand {call : Call} {below : List Call} {entry : Entry}
    (run : sources.Runs base call below) (asks : call.Asks [] (.entry entry)) :
    call.outcome = sources.expand base entry := by
  obtain ⟨_, _, outcome, left⟩ := call
  obtain ⟨rfl, rfl⟩ := asks
  exact run.agrees (.inl rfl)

/-! ## Runs end -/

/-- The loop over the includes of a source has a run when the entries for them have. -/
theorem exists_runs_includes {stack included : List String} {path : String} {entry : Entry}
    (nested : ∀ reference ∈ included, ∃ call below,
      call.Asks stack (.entry (entry.forInclude base reference)) ∧ sources.Runs base call below) :
    ∃ call below, call.Asks stack (.includes path entry included) ∧
      sources.Runs base call below := by
  induction included with
  | nil => exact ⟨_, _, ⟨rfl, rfl⟩, .done⟩
  | cons first rest ih =>
    obtain ⟨others, below', asks', run'⟩ :=
      ih fun reference member => nested reference (.tail _ member)
    cases named : first.isEmpty with
    | true => exact ⟨_, _, ⟨rfl, rfl⟩, .skipped named asks' run'⟩
    | false =>
      cases unified : (entry.forInclude base first).isUnified with
      | false => exact ⟨_, _, ⟨rfl, rfl⟩, .added named unified asks' run'⟩
      | true =>
        obtain ⟨inner, below, asks, run⟩ := nested first (.head _)
        cases result : inner.outcome.result with
        | error failure => exact ⟨_, _, ⟨rfl, rfl⟩, .failed named unified asks run result⟩
        | ok entries =>
          -- The loop goes on with the stack that the call left, and this is the one it found.
          have same : inner.left = stack := (run.left_eq_found result).trans asks.1
          rw [← same] at asks'
          exact ⟨_, _, ⟨rfl, rfl⟩, .called named unified asks run result asks' run'⟩

/-- Every call has a run, because a stack has room for finitely many more sources only. -/
theorem exists_runs {stack : List String} {entry : Entry}
    (known : sources.Known base stack entry) :
    ∃ call below, call.Asks stack (.entry entry) ∧ sources.Runs base call below := by
  refine expansion_induction (motive := fun stack entry => ∃ call below,
    call.Asks stack (.entry entry) ∧ sources.Runs base call below)
    (fun stack entry known ih => ?_) known
  cases unified : entry.isUnified with
  | false => exact ⟨_, _, ⟨rfl, rfl⟩, .stays unified⟩
  | true =>
    by_cases member : resolve base entry.file ∈ stack
    · exact ⟨_, _, ⟨rfl, rfl⟩, .cycle unified member⟩
    · cases read : sources.read (resolve base entry.file) with
      | error failure => exact ⟨_, _, ⟨rfl, rfl⟩, .unread unified member read⟩
      | ok bytes =>
        obtain ⟨inner, below, asks, run⟩ := exists_runs_includes (ih bytes member read)
        cases result : inner.outcome.result with
        | error failure => exact ⟨_, _, ⟨rfl, rfl⟩, .broken unified member read asks run result⟩
        | ok entries => exact ⟨_, _, ⟨rfl, rfl⟩, .popped unified member read asks run result⟩

/-! ## Stacks are sound -/

/-- The text of a source names an include that is read at this path. -/
def Leads (sources : Sources) (base : String) (path included : String) : Prop :=
  ∃ bytes, sources.read path = .ok bytes ∧
    ∃ reference ∈ namedPaths bytes, nestedPath base reference = included

/-- A stack of distinct sources that were read, each of which leads to the next. -/
structure SoundStack (sources : Sources) (base : String) (stack : List String) : Prop where
  distinct : stack.Nodup
  readable : ∀ path ∈ stack, sources.Readable path
  linked : stack.IsChain (sources.Leads base)

theorem SoundStack.nil : sources.SoundStack base [] :=
  ⟨List.nodup_nil, by simp, .nil⟩

theorem SoundStack.push {stack : List String} {path : String}
    (sound : sources.SoundStack base stack) (fresh : path ∉ stack)
    (readable : sources.Readable path)
    (leads : ∀ last ∈ stack.getLast?, sources.Leads base last path) :
    sources.SoundStack base (stack ++ [path]) where
  distinct := by
    rw [List.nodup_append]
    refine ⟨sound.distinct, List.nodup_singleton path, fun earlier member other last same => ?_⟩
    obtain rfl := List.mem_singleton.mp last
    exact fresh (same ▸ member)
  readable := by
    intro other member
    rcases List.mem_append.mp member with earlier | last
    · exact sound.readable other earlier
    · rwa [List.mem_singleton.mp last]
  linked := by
    rw [List.isChain_append]
    refine ⟨sound.linked, List.isChain_singleton path, fun last isLast other head => ?_⟩
    obtain rfl : path = other := by simpa using head
    exact leads last isLast

/-- What holds when a call is made: the stack is sound, and the source on top of it names what the
call has to do. -/
def Call.Fits (sources : Sources) (base : String) (call : Call) : Prop :=
  sources.SoundStack base call.found ∧
    match call.task with
    | .entry entry => ∀ last ∈ call.found.getLast?,
        sources.Leads base last (resolve base entry.file)
    | .includes path _ included => call.found.getLast? = some path ∧
        ∃ bytes, sources.read path = .ok bytes ∧ included ⊆ includedPaths bytes

theorem Call.Asks.fits_entry {call : Call} {stack : List String} {entry : Entry}
    (asks : call.Asks stack (.entry entry)) (sound : sources.SoundStack base stack)
    (leads : ∀ last ∈ stack.getLast?, sources.Leads base last (resolve base entry.file)) :
    call.Fits sources base := by
  obtain ⟨rfl, task⟩ := asks
  exact ⟨sound, by rw [task]; exact leads⟩

theorem Call.Asks.fits_includes {call : Call} {stack included : List String} {path : String}
    {entry : Entry} {bytes : Bytes} (asks : call.Asks stack (.includes path entry included))
    (sound : sources.SoundStack base stack) (top : stack.getLast? = some path)
    (read : sources.read path = .ok bytes) (inside : included ⊆ includedPaths bytes) :
    call.Fits sources base := by
  obtain ⟨rfl, task⟩ := asks
  exact ⟨sound, by rw [task]; exact ⟨top, bytes, read, inside⟩⟩

/-- The call was made on a sound stack, and left one. After a failure this may be a longer stack
than the one that it found. -/
def Call.Sound (sources : Sources) (base : String) (call : Call) : Prop :=
  call.Fits sources base ∧ sources.SoundStack base call.left

/-- A source that was pushed may be gone through. -/
theorem fits_of_push {stack : List String} {entry : Entry} {bytes : Bytes} {inner : Call}
    (sound : sources.SoundStack base stack)
    (leads : ∀ last ∈ stack.getLast?, sources.Leads base last (resolve base entry.file))
    (fresh : resolve base entry.file ∉ stack)
    (read : sources.read (resolve base entry.file) = .ok bytes)
    (asks : inner.Asks (stack ++ [resolve base entry.file])
      (.includes (resolve base entry.file) entry (includedPaths bytes))) :
    inner.Fits sources base :=
  asks.fits_includes (sound.push fresh ⟨bytes, read⟩ leads) List.getLast?_concat read
    (List.Subset.refl _)

section Loop

variable {stack rest : List String} {path first : String}

theorem fits_of_rest {entry : Entry} {others : Call} (sound : sources.SoundStack base stack)
    (names : stack.getLast? = some path ∧
      ∃ bytes, sources.read path = .ok bytes ∧ first :: rest ⊆ includedPaths bytes)
    (asks : others.Asks stack (.includes path entry rest)) : others.Fits sources base := by
  obtain ⟨top, bytes, read, inside⟩ := names
  exact asks.fits_includes sound top read (List.subset_of_cons_subset inside)

theorem fits_of_named {entry : Entry} {inner : Call} (sound : sources.SoundStack base stack)
    (names : stack.getLast? = some path ∧
      ∃ bytes, sources.read path = .ok bytes ∧ first :: rest ⊆ includedPaths bytes)
    (named : first.isEmpty = false)
    (asks : inner.Asks stack (.entry (entry.forInclude base first))) :
    inner.Fits sources base := by
  obtain ⟨top, bytes, read, inside⟩ := names
  refine asks.fits_entry sound fun last isLast => ?_
  obtain rfl : path = last := by simpa [top] using isLast
  exact ⟨bytes, read, first, mem_namedPaths_iff.mpr ⟨inside (.head _), named⟩, rfl⟩

end Loop

/-- Every call of a run is made on a sound stack and leaves one. -/
theorem Runs.sound {call : Call} {below : List Call} (run : sources.Runs base call below)
    (fits : call.Fits sources base) :
    call.Sound sources base ∧ ∀ reached ∈ below, reached.Sound sources base := by
  induction run with
  | stays => exact ⟨⟨fits, fits.1⟩, by simp⟩
  | cycle => exact ⟨⟨fits, fits.1⟩, by simp⟩
  | unread => exact ⟨⟨fits, fits.1⟩, by simp⟩
  | popped _ fresh read asks run success ih =>
    obtain ⟨inner, deeper⟩ := ih (fits_of_push fits.1 fits.2 fresh read asks)
    have back := run.left_eq_found success
    rw [asks.1] at back
    refine ⟨⟨fits, ?_⟩, List.forall_mem_cons.mpr ⟨inner, deeper⟩⟩
    show sources.SoundStack base (List.dropLast _)
    rw [back, List.dropLast_concat]
    exact fits.1
  | broken _ fresh read asks _ _ ih =>
    obtain ⟨inner, deeper⟩ := ih (fits_of_push fits.1 fits.2 fresh read asks)
    exact ⟨⟨fits, inner.2⟩, List.forall_mem_cons.mpr ⟨inner, deeper⟩⟩
  | done => exact ⟨⟨fits, fits.1⟩, by simp⟩
  | skipped _ asks _ ih =>
    obtain ⟨others, deeper⟩ := ih (fits_of_rest fits.1 fits.2 asks)
    exact ⟨⟨fits, others.2⟩, List.forall_mem_cons.mpr ⟨others, deeper⟩⟩
  | added _ _ asks _ ih =>
    obtain ⟨others, deeper⟩ := ih (fits_of_rest fits.1 fits.2 asks)
    exact ⟨⟨fits, others.2⟩, List.forall_mem_cons.mpr ⟨others, deeper⟩⟩
  | called named _ asks run success asks' _ ih ih' =>
    obtain ⟨inner, deeper⟩ := ih (fits_of_named fits.1 fits.2 named asks)
    rw [run.left_eq_found success, asks.1] at asks'
    obtain ⟨others, deeper'⟩ := ih' (fits_of_rest fits.1 fits.2 asks')
    refine ⟨⟨fits, others.2⟩, List.forall_mem_append.mpr ⟨?_, ?_⟩⟩
    · exact List.forall_mem_cons.mpr ⟨inner, deeper⟩
    · exact List.forall_mem_cons.mpr ⟨others, deeper'⟩
  | failed named _ asks _ _ ih =>
    obtain ⟨inner, deeper⟩ := ih (fits_of_named fits.1 fits.2 named asks)
    exact ⟨⟨fits, inner.2⟩, List.forall_mem_cons.mpr ⟨inner, deeper⟩⟩

theorem Runs.exists_runs_of_mem {call : Call} {below : List Call}
    (run : sources.Runs base call below) :
    ∀ reached ∈ below, ∃ deeper, sources.Runs base reached deeper := by
  induction run with
  | stays => simp
  | cycle => simp
  | unread => simp
  | popped _ _ _ _ run _ ih => exact List.forall_mem_cons.mpr ⟨⟨_, run⟩, ih⟩
  | broken _ _ _ _ run _ ih => exact List.forall_mem_cons.mpr ⟨⟨_, run⟩, ih⟩
  | done => simp
  | skipped _ _ run ih => exact List.forall_mem_cons.mpr ⟨⟨_, run⟩, ih⟩
  | added _ _ _ run ih => exact List.forall_mem_cons.mpr ⟨⟨_, run⟩, ih⟩
  | called _ _ _ run _ _ run' ih ih' =>
    refine List.forall_mem_append.mpr ⟨?_, ?_⟩
    · exact List.forall_mem_cons.mpr ⟨⟨_, run⟩, ih⟩
    · exact List.forall_mem_cons.mpr ⟨⟨_, run'⟩, ih'⟩
  | failed _ _ _ run _ ih => exact List.forall_mem_cons.mpr ⟨⟨_, run⟩, ih⟩

/-! ## Stacks are bounded -/

/-- Every source of a stack but the first is read at a path that another one leads to. -/
theorem SoundStack.exists_leads {first : String} {rest : List String}
    (sound : sources.SoundStack base (first :: rest)) :
    ∀ path ∈ rest, ∃ earlier, sources.Leads base earlier path := by
  have linked := sound.linked
  clear sound
  induction rest generalizing first with
  | nil => simp
  | cons second rest ih =>
    obtain ⟨leads, linked⟩ := List.isChain_cons_cons.mp linked
    exact List.forall_mem_cons.mpr ⟨⟨first, leads⟩, ih linked⟩

/-- A stack has room for the paths to be read at, and for the source it starts with. -/
theorem SoundStack.length_le {stack paths : List String} (sound : sources.SoundStack base stack)
    (listed : ∀ earlier path, sources.Leads base earlier path → path ∈ paths) :
    stack.length ≤ 1 + paths.length := by
  cases stack with
  | nil => exact Nat.zero_le _
  | cons first rest =>
    have inside : rest ⊆ paths := by
      intro path member
      obtain ⟨earlier, leads⟩ := sound.exists_leads path member
      exact listed earlier path leads
    have distinct : rest.Nodup := (List.nodup_cons.mp sound.distinct).2
    have := distinct.length_le_of_subset inside
    rw [List.length_cons]
    omega

end Sources

namespace FileSystem

def fileTexts (fs : FileSystem) : List Bytes :=
  fs.nodes.filterMap fun entry => (fs.node? entry.1).bind Node.text?

/-- The paths at which named includes are read, each of them once. They depend on the texts of the
file system and on the base, and not on the entry that is expanded. -/
def readPaths (fs : FileSystem) (base : String) : List String :=
  ((fs.fileTexts.flatMap namedPaths).map (nestedPath base)).dedup

/-- What is read is the text of a file, or nothing. -/
theorem eq_nil_or_mem_fileTexts {fs : FileSystem} {path : String} {bytes : Bytes}
    (read : fs.read path = .ok bytes) : bytes = [] ∨ bytes ∈ fs.fileTexts := by
  unfold FileSystem.read at read
  split at read
  · cases read
  · rename_i place _
    unfold content at read
    split at read
    · rename_i found node
      cases read
      right
      unfold nodeAt? at node
      split at node
      · rw [fileTexts, List.mem_filterMap]
        have inside : place.names ≠ [] := by
          intro root
          simp [root] at node
        have listed : fs.nodes.lookup place.names = some (.file bytes) := by
          simpa [node?, inside] using node
        exact ⟨_, mem_of_lookup listed, by rw [node]; rfl⟩
      · cases node
    · cases read
      exact .inl rfl
    · cases read
    · cases read

theorem mem_readPaths {fs : FileSystem} {base path included : String}
    (leads : fs.view.Leads base path included) : included ∈ fs.readPaths base := by
  obtain ⟨bytes, read, reference, named, rfl⟩ := leads
  rw [readPaths, List.mem_dedup]
  apply List.mem_map_of_mem
  rcases eq_nil_or_mem_fileTexts read with rfl | listed
  · cases named
  · exact List.mem_flatMap.mpr ⟨bytes, listed, named⟩

/-- An expansion ends, with the stack under control. It has one run from the empty stack, with the
outcome of the expansion. Each call in it finds distinct sources that were read and lead from one to
the next, a call that succeeds leaves the stack that it found, and no stack is longer than there are
paths to be read at, with one more for the source at its bottom. -/
theorem expand_has_sound_run (fs : FileSystem) (base : String) (entry : Entry) :
    ∃ call below, call.Asks [] (.entry entry) ∧ fs.view.Runs base call below ∧
      (∀ other more, other.Asks [] (.entry entry) → fs.view.Runs base other more →
        other = call ∧ more = below) ∧
      call.outcome = fs.view.expand base entry ∧
      ∀ reached ∈ call :: below,
        fs.view.SoundStack base reached.found ∧
        (∀ entries, reached.outcome.result = .ok entries → reached.left = reached.found) ∧
        reached.found.length ≤ 1 + (fs.readPaths base).length ∧
        reached.left.length ≤ 1 + (fs.readPaths base).length := by
  obtain ⟨call, below, asks, run⟩ := Sources.exists_runs (.inl rfl)
  refine ⟨call, below, asks, run, fun other more asks' run' => ?_, ?_, fun reached member => ?_⟩
  · exact run.unique run' (asks.same asks')
  · obtain ⟨_, _, outcome, left⟩ := call
    obtain ⟨rfl, rfl⟩ := asks
    exact run.agrees (.inl rfl)
  · have fits : call.Fits fs.view.toSources base := asks.fits_entry .nil (by simp)
    have sound := List.forall_mem_cons.mpr (run.sound fits)
    have runs := List.forall_mem_cons.mpr ⟨⟨below, run⟩, run.exists_runs_of_mem⟩
    obtain ⟨⟨found, _⟩, left⟩ := sound reached member
    obtain ⟨deeper, run'⟩ := runs reached member
    exact ⟨found, fun entries success => run'.left_eq_found success,
      found.length_le fun _ _ => mem_readPaths, left.length_le fun _ _ => mem_readPaths⟩

end FileSystem

end UnityBuild
