import UnityBuild.Expansion
import UnityBuild.Proofs.Entry.Classification
import UnityBuild.Proofs.Parts

/-!
# One step of an expansion

A unified source fails when it is on the chain already or when it cannot be read. Otherwise it
yields, one after the other, what its named includes contribute below the chain that it extends. The
relations here speak of results only and hide the evidence that keeps the recursion going. Two
inversion lemmas say everything that a success and a failure can come from, and one induction
principle follows the chain as it grows.
-/

namespace UnityBuild

/-- The paths that a source includes, apart from empty ones. -/
def namedPaths (bytes : Bytes) : List String :=
  (includedPaths bytes).filter (!·.isEmpty)

theorem mem_namedPaths_iff {bytes : Bytes} {reference : String} :
    reference ∈ namedPaths bytes ↔
      reference ∈ includedPaths bytes ∧ reference.isEmpty = false := by
  simp [namedPaths]

namespace Outcome

variable {α β : Type}

@[simp] theorem result_map (f : α → β) (outcome : Outcome α) :
    (f <$> outcome).result = outcome.result.map f := by
  obtain ⟨log, result⟩ := outcome
  cases result <;> rfl

/-- A sequence fails with its first step, or with its second one after a success. -/
theorem result_bind_eq_error_iff {first : Outcome α} {next : α → Outcome β} {failure : Failure} :
    (first >>= next).result = .error failure ↔
      first.result = .error failure ∨
        ∃ middle, first.result = .ok middle ∧ (next middle).result = .error failure := by
  cases h : first.result with
  | error => simp [bind, Outcome.bind, h]
  | ok middle => simp [bind, Outcome.bind, h]

@[simp] theorem result_write (level : Level) (part : Part) (text : String) :
    (write level part text).result = .ok () := rfl

@[simp] theorem result_writeIf (condition : Bool) (level : Level) (part : Part) (text : String) :
    (writeIf condition level part text).result = .ok () := rfl

@[simp] theorem result_fail (failure : Failure) :
    (fail failure : Outcome α).result = .error failure := rfl

theorem result_within_eq_ok_iff {outcome : Outcome α} {context : Context} {value : α} :
    (outcome.within context).result = .ok value ↔ outcome.result = .ok value := by
  cases h : outcome.result <;> simp [within, Except.mapError, h]

theorem result_within_eq_error_iff {outcome : Outcome α} {context : Context} {failure : Failure} :
    (outcome.within context).result = .error failure ↔
      ∃ inner, outcome.result = .error inner ∧ failure = inner.within context := by
  cases h : outcome.result <;> simp [within, Except.mapError, h, eq_comm]

end Outcome

namespace Sources

variable {sources : Sources} {base : String}

/-- An entry may be expanded below a chain when it comes first or when an include can lead to it. -/
abbrev Known (sources : Sources) (base : String) (chain : List String) (entry : Entry) : Prop :=
  chain = [] ∨ resolve base entry.file ∈ sources.candidates base

/-- Below a chain, the entry of a unified source expands into these entries. -/
def Yields (sources : Sources) (base : String) (chain : List String) (entry : Entry)
    (entries : List Entry) : Prop :=
  ∃ known, (sources.expandUnified base chain entry known).result = .ok entries

/-- Below a chain, the expansion of the entry of a unified source fails. -/
def Fails (sources : Sources) (base : String) (chain : List String) (entry : Entry)
    (failure : Failure) : Prop :=
  ∃ known, (sources.expandUnified base chain entry known).result = .error failure

theorem yields_iff_result {chain : List String} {entry : Entry}
    (known : sources.Known base chain entry) {entries : List Entry} :
    sources.Yields base chain entry entries ↔
      (sources.expandUnified base chain entry known).result = .ok entries :=
  exists_prop_of_true known

theorem fails_iff_result {chain : List String} {entry : Entry}
    (known : sources.Known base chain entry) {failure : Failure} :
    sources.Fails base chain entry failure ↔
      (sources.expandUnified base chain entry known).result = .error failure :=
  exists_prop_of_true known

/-- What one named include of an entry adds to its expansion: what it expands into itself if it is
unified, and otherwise the entry that is made for it. -/
def Contributes (sources : Sources) (base : String) (chain : List String) (entry : Entry)
    (reference : String) (part : List Entry) : Prop :=
  if (entry.forInclude base reference).isUnified then
    sources.Yields base chain (entry.forInclude base reference) part
  else part = [entry.forInclude base reference]

/-- A named include that ends the expansion of an entry. -/
def Breaks (sources : Sources) (base : String) (chain : List String) (entry : Entry)
    (reference : String) (failure : Failure) : Prop :=
  (entry.forInclude base reference).isUnified = true ∧
    sources.Fails base chain (entry.forInclude base reference) failure

theorem known_forInclude {path : String} {bytes : Bytes} (read : sources.read path = .ok bytes)
    {reference : String} (included : reference ∈ includedPaths bytes) (chain : List String)
    (entry : Entry) : sources.Known base chain (entry.forInclude base reference) :=
  .inr (resolve_forInclude_mem (nestedPath_mem_candidates read base reference included) entry)

theorem expandUnified_of_mem {chain : List String} {entry : Entry}
    (known : sources.Known base chain entry) (h : resolve base entry.file ∈ chain) :
    sources.expandUnified base chain entry known =
      .fail (.of (.cycle (chain.getLast?.getD "") (resolve base entry.file))) := by
  rw [expandUnified]
  simp [h]

theorem expandUnified_of_error {chain : List String} {entry : Entry} {failure : ReadFailure}
    (known : sources.Known base chain entry) (fresh : resolve base entry.file ∉ chain)
    (read : sources.read (resolve base entry.file) = .error failure) :
    sources.expandUnified base chain entry known =
      .fail ⟨[.readSource (resolve base entry.file)], .io failure.reason⟩ := by
  rw [expandUnified]
  simp only [fresh, dite_false]
  split
  · simp_all
  · simp_all

theorem expandUnified_of_ok {chain : List String} {entry : Entry} {bytes : Bytes}
    (known : sources.Known base chain entry) (fresh : resolve base entry.file ∉ chain)
    (read : sources.read (resolve base entry.file) = .ok bytes) :
    sources.expandUnified base chain entry known = do
      let entries ← sources.expandIncludes base (chain ++ [resolve base entry.file])
        (resolve base entry.file) entry (includedPaths bytes) (nestedPath_mem_candidates read base)
      Outcome.write .debug .expansion (expandedNote entry entries.length)
      return entries := by
  rw [expandUnified]
  simp only [fresh, dite_false]
  split
  · simp_all
  · rename_i other readOther
    cases read.symm.trans readOther
    rfl

/-- What the loop over the includes of a source does for one that is not empty. -/
def expandNamed (sources : Sources) (base : String) (chain : List String) (path : String)
    (entry : Entry) (reference : String)
    (known : sources.Known base chain (entry.forInclude base reference)) :
    Outcome (List Entry) := do
  let here := entry.forInclude base reference
  Outcome.writeIf (!here.isRecognized) .warn .expansion (includedWarning here entry)
  if here.isUnified then
    (sources.expandUnified base chain here known).within (.expand here.file path)
  else pure [here]

section Loop

variable {chain : List String} {path : String} {entry : Entry} {first : String} {rest : List String}

theorem expandIncludes_nil
    (known : ∀ path ∈ [], nestedPath base path ∈ sources.candidates base) :
    sources.expandIncludes base chain path entry [] known = pure [] := by
  rw [expandIncludes]

theorem expandIncludes_cons_of_empty
    (known : ∀ path ∈ first :: rest, nestedPath base path ∈ sources.candidates base)
    (empty : first.isEmpty = true) :
    sources.expandIncludes base chain path entry (first :: rest) known = (do
      Outcome.write .warn .expansion (emptyWarning path)
      sources.expandIncludes base chain path entry rest fun path h => known path (.tail _ h)) := by
  rw [expandIncludes]
  simp only [empty, if_true]

theorem expandIncludes_cons_of_named
    (known : ∀ path ∈ first :: rest, nestedPath base path ∈ sources.candidates base)
    (named : first.isEmpty = false) :
    sources.expandIncludes base chain path entry (first :: rest) known = do
      let part ← sources.expandNamed base chain path entry first
        (.inr (resolve_forInclude_mem (known first (.head _)) entry))
      let others ← sources.expandIncludes base chain path entry rest
        fun path h => known path (.tail _ h)
      return part ++ others := by
  rw [expandIncludes]
  simp only [named, Bool.false_eq_true, if_false, expandNamed, bind_assoc]
  split <;> rfl

end Loop

theorem expandNamed_eq_ok_iff {chain : List String} {path : String} {entry : Entry}
    {reference : String} (known : sources.Known base chain (entry.forInclude base reference))
    {part : List Entry} :
    (sources.expandNamed base chain path entry reference known).result = .ok part ↔
      sources.Contributes base chain entry reference part := by
  rw [expandNamed, Outcome.result_bind_eq_ok_iff, Contributes]
  by_cases unified : (entry.forInclude base reference).isUnified = true
  · simp [unified, Outcome.result_within_eq_ok_iff, yields_iff_result known]
  · simp [unified, eq_comm]

theorem expandNamed_eq_error_iff {chain : List String} {path : String} {entry : Entry}
    {reference : String} (known : sources.Known base chain (entry.forInclude base reference))
    {failure : Failure} :
    (sources.expandNamed base chain path entry reference known).result = .error failure ↔
      ∃ inner, sources.Breaks base chain entry reference inner ∧
        failure = inner.within (.expand (resolve base reference) path) := by
  rw [expandNamed, Outcome.result_bind_eq_error_iff]
  by_cases unified : (entry.forInclude base reference).isUnified = true
  · simp [unified, Outcome.result_within_eq_error_iff, Breaks, fails_iff_result known]
  · simp [unified, Breaks]

/-- The includes of a source expand into what the named ones contribute. -/
theorem expandIncludes_eq_ok_iff {chain : List String} {path : String} {entry : Entry}
    {included : List String}
    (known : ∀ path ∈ included, nestedPath base path ∈ sources.candidates base)
    {entries : List Entry} :
    (sources.expandIncludes base chain path entry included known).result = .ok entries ↔
      ∃ parts, List.Forall₂ (sources.Contributes base chain entry)
        (included.filter (!·.isEmpty)) parts ∧ entries = parts.flatten := by
  induction included generalizing entries with
  | nil =>
    rw [expandIncludes_nil]
    simp [eq_comm]
  | cons first rest ih =>
    cases named : first.isEmpty with
    | true =>
      rw [expandIncludes_cons_of_empty known named, Outcome.result_bind_eq_ok_iff]
      simp [named, ih]
    | false =>
      rw [expandIncludes_cons_of_named known named, Outcome.result_bind_eq_ok_iff]
      simp only [expandNamed_eq_ok_iff, Outcome.result_bind_eq_ok_iff, ih, named,
        List.filter_cons, Bool.not_false, if_true, List.forall₂_cons_left_iff,
        Outcome.result_pure, Except.ok.injEq]
      constructor
      · rintro ⟨part, contributes, others, ⟨parts, more, rfl⟩, rfl⟩
        exact ⟨part :: parts, ⟨part, parts, contributes, more, rfl⟩, rfl⟩
      · rintro ⟨_, ⟨part, parts, contributes, more, rfl⟩, rfl⟩
        exact ⟨part, contributes, parts.flatten, ⟨parts, more, rfl⟩, rfl⟩

/-- The includes of a source fail with the first named one that breaks. -/
theorem exists_breaks_of_expandIncludes_eq_error {chain : List String} {path : String}
    {entry : Entry} {included : List String}
    (known : ∀ path ∈ included, nestedPath base path ∈ sources.candidates base)
    {failure : Failure}
    (h : (sources.expandIncludes base chain path entry included known).result = .error failure) :
    ∃ front reference rest parts inner,
      included.filter (!·.isEmpty) = front ++ reference :: rest ∧
      List.Forall₂ (sources.Contributes base chain entry) front parts ∧
      sources.Breaks base chain entry reference inner ∧
      failure = inner.within (.expand (resolve base reference) path) := by
  induction included with
  | nil =>
    rw [expandIncludes_nil] at h
    simp at h
  | cons first rest ih =>
    cases named : first.isEmpty with
    | true =>
      rw [expandIncludes_cons_of_empty known named, Outcome.result_bind_eq_error_iff] at h
      simpa [named] using ih _ (by simpa using h)
    | false =>
      rw [expandIncludes_cons_of_named known named, Outcome.result_bind_eq_error_iff] at h
      simp only [expandNamed_eq_error_iff, expandNamed_eq_ok_iff] at h
      rcases h with ⟨inner, breaks, rfl⟩ | ⟨part, contributes, h⟩
      · exact ⟨[], first, rest.filter (!·.isEmpty), [], inner, by simp [named], .nil, breaks, rfl⟩
      · rw [Outcome.result_bind_eq_error_iff] at h
        obtain ⟨front, reference, others, parts, inner, split, before, breaks, rfl⟩ :=
          ih _ (by simpa using h)
        exact ⟨first :: front, reference, others, part :: parts, inner, by simp [named, split],
          .cons contributes before, breaks, rfl⟩

/-- A success has read the source and has put together what each named include contributes. -/
theorem yields_iff {chain : List String} {entry : Entry} (known : sources.Known base chain entry)
    {entries : List Entry} :
    sources.Yields base chain entry entries ↔
      resolve base entry.file ∉ chain ∧
        ∃ bytes, sources.read (resolve base entry.file) = .ok bytes ∧
          ∃ parts, List.Forall₂
            (sources.Contributes base (chain ++ [resolve base entry.file]) entry)
            (namedPaths bytes) parts ∧ entries = parts.flatten := by
  by_cases fresh : resolve base entry.file ∉ chain
  · cases read : sources.read (resolve base entry.file) with
    | error failure =>
      simp [yields_iff_result known, expandUnified_of_error known fresh read]
    | ok bytes =>
      have loop : (sources.expandUnified base chain entry known).result = .ok entries ↔
          (sources.expandIncludes base (chain ++ [resolve base entry.file])
            (resolve base entry.file) entry (includedPaths bytes)
            (nestedPath_mem_candidates read base)).result = .ok entries := by
        rw [expandUnified_of_ok known fresh read, Outcome.result_bind_eq_ok_iff]
        simp [Except.map]
      rw [yields_iff_result known, loop, expandIncludes_eq_ok_iff]
      simp [fresh, namedPaths]
  · simp only [not_not] at fresh
    simp [yields_iff_result known, expandUnified_of_mem known fresh, fresh]

/-- A failure is a cycle, a source that cannot be read, or comes from the first named include that
breaks. -/
theorem cases_of_fails {chain : List String} {entry : Entry} {failure : Failure}
    (h : sources.Fails base chain entry failure) :
    (resolve base entry.file ∈ chain ∧
      failure = .of (.cycle (chain.getLast?.getD "") (resolve base entry.file))) ∨
    (resolve base entry.file ∉ chain ∧
      ∃ reason, sources.read (resolve base entry.file) = .error reason ∧
        failure = ⟨[.readSource (resolve base entry.file)], .io reason.reason⟩) ∨
    (resolve base entry.file ∉ chain ∧
      ∃ bytes, sources.read (resolve base entry.file) = .ok bytes ∧
        ∃ front reference rest parts inner, namedPaths bytes = front ++ reference :: rest ∧
          List.Forall₂ (sources.Contributes base (chain ++ [resolve base entry.file]) entry)
            front parts ∧
          sources.Breaks base (chain ++ [resolve base entry.file]) entry reference inner ∧
          failure = inner.within (.expand (resolve base reference) (resolve base entry.file))) := by
  obtain ⟨known, h⟩ := h
  by_cases fresh : resolve base entry.file ∉ chain
  · cases read : sources.read (resolve base entry.file) with
    | error reason =>
      rw [expandUnified_of_error known fresh read, Outcome.result_fail, Except.error.injEq] at h
      exact .inr (.inl ⟨fresh, reason, rfl, h.symm⟩)
    | ok bytes =>
      rw [expandUnified_of_ok known fresh read, Outcome.result_bind_eq_error_iff] at h
      have broken : (sources.expandIncludes base (chain ++ [resolve base entry.file])
          (resolve base entry.file) entry (includedPaths bytes)
          (nestedPath_mem_candidates read base)).result = .error failure := by
        simpa [Except.map] using h
      exact .inr (.inr ⟨fresh, bytes, rfl, exists_breaks_of_expandIncludes_eq_error _ broken⟩)
  · simp only [not_not] at fresh
    rw [expandUnified_of_mem known fresh, Outcome.result_fail, Except.error.injEq] at h
    exact .inl ⟨fresh, h.symm⟩

/-- The induction follows the chain, which has room for finitely many more paths only. An entry is
expanded after the entries for all that its source includes, below the chain with that source. -/
theorem expansion_induction {motive : List String → Entry → Prop}
    (step : ∀ chain entry, sources.Known base chain entry →
      (∀ bytes, resolve base entry.file ∉ chain →
        sources.read (resolve base entry.file) = .ok bytes →
        ∀ reference ∈ includedPaths bytes,
          motive (chain ++ [resolve base entry.file]) (entry.forInclude base reference)) →
      motive chain entry)
    {chain : List String} {entry : Entry} (known : sources.Known base chain entry) :
    motive chain entry := by
  induction room : sources.room base chain using Nat.strongRecOn generalizing chain entry with
  | ind bound ih =>
    subst room
    refine step chain entry known fun bytes fresh read reference included => ?_
    exact ih _ (room_append_lt fresh known) (known_forInclude read included _ entry) rfl

/-- The source of an entry names a unified source, and this is the entry that is made for it. -/
def Nests (sources : Sources) (base : String) (entry inner : Entry) : Prop :=
  ∃ bytes, sources.read (resolve base entry.file) = .ok bytes ∧
    ∃ reference ∈ namedPaths bytes,
      inner = entry.forInclude base reference ∧ inner.isUnified = true

/-- An entry is made for a plain include of the source that is expanded or of one nested in it. -/
inductive Makes (sources : Sources) (base : String) : Entry → Entry → Prop
  | plain {entry : Entry} {bytes : Bytes} {reference : String}
      (read : sources.read (resolve base entry.file) = .ok bytes)
      (named : reference ∈ namedPaths bytes)
      (plain : (entry.forInclude base reference).isUnified = false) :
      Makes sources base entry (entry.forInclude base reference)
  | nested {entry inner made : Entry} (nests : sources.Nests base entry inner)
      (makes : Makes sources base inner made) : Makes sources base entry made

/-- Everything that an expansion yields is made on the way, from a named include of a source that
was met there. -/
theorem makes_of_yields {chain : List String} {entry : Entry} {entries : List Entry}
    (yields : sources.Yields base chain entry entries) :
    ∀ made ∈ entries, sources.Makes base entry made := by
  have known : sources.Known base chain entry := yields.1
  refine expansion_induction (motive := fun chain entry => ∀ entries,
    sources.Yields base chain entry entries → ∀ made ∈ entries, sources.Makes base entry made)
    (fun chain entry known ih entries yields made member => ?_) known entries yields
  obtain ⟨fresh, bytes, read, parts, all, rfl⟩ := (yields_iff known).mp yields
  obtain ⟨reference, named, part, contributes, inside⟩ := exists_mem_of_mem_flatten all member
  rw [Contributes] at contributes
  split at contributes
  · rename_i unified
    have included := (List.mem_filter.mp named).1
    have below := ih bytes fresh read reference included part contributes made inside
    exact .nested ⟨bytes, read, reference, named, rfl, unified⟩ below
  · rename_i plainFile
    obtain rfl : made = entry.forInclude base reference := by
      simpa [contributes] using inside
    exact .plain read named (by simpa using plainFile)

/-- What holds of the entry for a plain include, and passes from what a unified include expands into
to what its includer expands into, holds of everything that an expansion makes. -/
theorem forall_mem_of_yields {motive : Entry → Entry → Prop}
    (plain : ∀ entry reference, (entry.forInclude base reference).isUnified = false →
      motive entry (entry.forInclude base reference))
    (nested : ∀ entry reference made, motive (entry.forInclude base reference) made →
      motive entry made)
    {chain : List String} {entry : Entry} {entries : List Entry}
    (yields : sources.Yields base chain entry entries) : ∀ made ∈ entries, motive entry made := by
  intro made member
  have makes := makes_of_yields yields made member
  clear yields member
  induction makes with
  | plain _ _ plainFile => exact plain _ _ plainFile
  | nested nests _ ih =>
    obtain ⟨_, _, reference, _, rfl, _⟩ := nests
    exact nested _ reference _ ih

end Sources

end UnityBuild
