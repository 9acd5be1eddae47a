import Mathlib.Data.List.Chain
import UnityBuild.Proofs.Expansion.InPlace

/-!
# The way to a failure

A failure inside an expansion goes up through all the sources that are being expanded, and each of
them adds a context. So the contexts of a failure, read from the outermost one, follow the way that
the expansion took: from the first source to the first of its includes that cannot be expanded, from
there to the first such include of that source, and so on. The way ends at a source that cannot be
read, or at one that it came through before.

Whether an include can be expanded is a matter of the include alone. An expansion below a chain
fails more often than one on its own, but only for a source that leads back into the chain, and each
source of the chain leads to it: on its own, it fails as well.
-/

namespace UnityBuild

namespace Sources

variable {sources : Sources} {base : String}

/-- The file at a path can be expanded on its own, by an entry that has no more than this file.
Neither directory nor command decides whether an expansion succeeds. -/
def Expands (sources : Sources) (base path : String) : Prop :=
  ∃ entries, (sources.expand base ⟨"", "", path⟩).result = .ok entries

/-- Of the named includes of a source, this is the first that cannot be expanded. -/
def FirstBroken (sources : Sources) (base path included : String) : Prop :=
  ∃ bytes, sources.read path = .ok bytes ∧
    ∃ front reference rest, namedPaths bytes = front ++ reference :: rest ∧
      included = resolve base reference ∧
      (∀ earlier ∈ front, sources.Expands base (resolve base earlier)) ∧
      ¬ sources.Expands base included

/-- An entry expands unless it is unified and its source is not clear. -/
theorem exists_expand_eq_ok_iff (absolute : Path.isAbsolute base = true) (entry : Entry) :
    (∃ entries, (sources.expand base entry).result = .ok entries) ↔
      (entry.isUnified = true → sources.Clear base [] (resolve base entry.file)) := by
  cases unified : entry.isUnified with
  | true =>
    simp only [expand_eq_ok_iff_yields unified, exists_yields_iff_clear absolute (.inl rfl),
      true_implies]
  | false => simp [expand_eq_ok_iff_resolved unified]

theorem expands_iff (absolute : Path.isAbsolute base = true) (reference : String) :
    sources.Expands base (resolve base reference) ↔
      (Path.isUnified (resolve base reference) = true →
        sources.Clear base [] (resolve base reference)) := by
  rw [Expands, exists_expand_eq_ok_iff absolute, resolve_resolve absolute]
  rfl

theorem FirstBroken.includes (absolute : Path.isAbsolute base = true) {path included : String}
    (broken : sources.FirstBroken base path included) :
    sources.Includes base path included := by
  obtain ⟨bytes, read, front, reference, rest, split, rfl, -, fails⟩ := broken
  have unified : Path.isUnified (resolve base reference) = true := by
    by_contra plain
    exact fails ((expands_iff absolute reference).mpr fun unified => absurd unified plain)
  exact ⟨bytes, read, reference, by simp [split], rfl, unified⟩

/-- What is clear on its own is clear below sources that lead to it. -/
theorem Clear.below {chain : List String} {path : String} (clear : sources.Clear base [] path)
    (leads : ∀ earlier ∈ chain, Relation.TransGen (sources.Includes base) earlier path) :
    sources.Clear base chain path := by
  intro reached way
  obtain ⟨readable, -, acyclic⟩ := clear reached way
  exact ⟨readable, fun member => acyclic ((leads reached member).trans_left way), acyclic⟩

theorem Fails.not_yields {chain : List String} {entry : Entry} {failure : Failure}
    (fails : sources.Fails base chain entry failure) :
    ¬ ∃ entries, sources.Yields base chain entry entries := by
  rintro ⟨entries, known, success⟩
  obtain ⟨_, fails⟩ := fails
  cases success.symm.trans fails

/-- An include that has contributed can be expanded on its own. -/
theorem expands_of_contributes (absolute : Path.isAbsolute base = true) {chain : List String}
    {entry : Entry} {reference : String} {part : List Entry}
    (contributes : sources.Contributes base chain entry reference part) :
    sources.Expands base (resolve base reference) := by
  rw [expands_iff absolute]
  intro unified
  have yields : sources.Yields base chain (entry.forInclude base reference) part := by
    rwa [Contributes, Entry.isUnified_eq, Entry.forInclude_file, if_pos unified] at contributes
  have clear := (exists_yields_iff_clear absolute yields.1).mp ⟨part, yields⟩
  rw [resolve_forInclude_file absolute] at clear
  exact clear.mono (by simp)

/-- An include that has failed cannot be expanded on its own either. -/
theorem not_expands_of_breaks (absolute : Path.isAbsolute base = true) {chain : List String}
    {entry : Entry} {reference : String} {failure : Failure}
    (breaks : sources.Breaks base chain entry reference failure)
    (leads : ∀ earlier ∈ chain,
      Relation.TransGen (sources.Includes base) earlier (resolve base reference)) :
    ¬ sources.Expands base (resolve base reference) := by
  obtain ⟨unified, fails⟩ := breaks
  rw [expands_iff absolute]
  intro expands
  have clear := (expands unified).below leads
  rw [← resolve_forInclude_file absolute entry reference] at clear
  exact fails.not_yields ((exists_yields_iff_clear absolute fails.1).mpr clear)

/-! ## Trails -/

/-- The contexts that are added on the way back from the last source to the first. -/
def backContexts (paths : List String) : List Context :=
  List.zipWith (fun includer included => .expand included includer) paths paths.tail

/-- The way of an expansion from a source, below a chain, to the last source: the sources in front
of the last one are readable and distinct, and each leads to the next by its first include that is
broken. -/
structure Trail (sources : Sources) (base : String) (chain : List String) (first : String)
    (trail : List String) (last : String) : Prop where
  head : (trail ++ [last]).head? = some first
  linked : (trail ++ [last]).IsChain (sources.FirstBroken base)
  readable : ∀ path ∈ trail, sources.Readable path
  absolute : ∀ path ∈ trail, Path.isAbsolute path = true
  fresh : ∀ path ∈ trail, path ∉ chain
  distinct : trail.Nodup

/-- The failure at the end of a way: the last source cannot be read, or it is on the chain or on the
way already. The contexts of the way stand in front. -/
inductive EndsWith (sources : Sources) (chain trail : List String) (last : String) : Failure → Prop
  | unread {reason : ReadFailure} (read : sources.read last = .error reason) :
      EndsWith sources chain trail last
        ⟨backContexts (trail ++ [last]) ++ [.readSource last], .io reason.reason⟩
  | cycle (member : last ∈ chain ++ trail) :
      EndsWith sources chain trail last
        ⟨backContexts (trail ++ [last]), .cycle ((chain ++ trail).getLast?.getD "") last⟩

/-- The messages of those contexts. -/
def backMessages (paths : List String) : List String :=
  List.zipWith (fun includer included =>
    "Failed to expand '" ++ included ++ "' included from '" ++ includer ++ "'") paths paths.tail

theorem map_message_backContexts (paths : List String) :
    (backContexts paths).map Context.message = backMessages paths := by
  rw [backContexts, backMessages, List.map_zipWith]
  rfl

variable {chain trail : List String} {first last path : String}

theorem Trail.here (path : String) : sources.Trail base chain path [] path :=
  ⟨rfl, .singleton path, by simp, by simp, by simp, .nil⟩

theorem Trail.cons (way : sources.Trail base (chain ++ [path]) first trail last)
    (absolute : Path.isAbsolute path = true) (fresh : path ∉ chain)
    (broken : sources.FirstBroken base path first) :
    sources.Trail base chain path (path :: trail) last where
  head := rfl
  linked := by
    rw [List.cons_append, List.isChain_cons]
    refine ⟨fun next isNext => ?_, way.linked⟩
    obtain rfl : first = next := Option.some.inj (way.head.symm.trans isNext)
    exact broken
  readable := by
    obtain ⟨bytes, read, -⟩ := broken
    exact List.forall_mem_cons.mpr ⟨⟨bytes, read⟩, way.readable⟩
  absolute := List.forall_mem_cons.mpr ⟨absolute, way.absolute⟩
  fresh := by
    refine List.forall_mem_cons.mpr ⟨fresh, fun other member inside => ?_⟩
    exact way.fresh other member (List.mem_append_left _ inside)
  distinct := by
    refine List.nodup_cons.mpr ⟨fun member => ?_, way.distinct⟩
    exact way.fresh path member (by simp)

theorem backContexts_cons {paths : List String} (head : paths.head? = some first) (path : String) :
    backContexts (path :: paths) = .expand first path :: backContexts paths := by
  obtain ⟨rest, rfl⟩ := List.head?_eq_some_iff.mp head
  rfl

/-- The context that a source adds names it and the next source. -/
theorem EndsWith.within {failure : Failure}
    (ends : sources.EndsWith (chain ++ [path]) trail last failure)
    (head : (trail ++ [last]).head? = some first) :
    sources.EndsWith chain (path :: trail) last (failure.within (.expand first path)) := by
  cases ends with
  | unread read =>
    rw [Failure.within, ← List.cons_append, ← backContexts_cons head]
    exact .unread read
  | cycle member =>
    rw [Failure.within, ← backContexts_cons head, List.append_assoc]
    rw [List.append_assoc] at member
    exact .cycle member

/-- Every failure has its way. The induction follows the chain, and the way grows in front. -/
theorem exists_trail_of_fails (absolute : Path.isAbsolute base = true) {start : String}
    {entry : Entry} (route : sources.Route base start chain (resolve base entry.file))
    {failure : Failure} (fails : sources.Fails base chain entry failure) :
    ∃ trail last, sources.Trail base chain (resolve base entry.file) trail last ∧
      sources.EndsWith chain trail last failure := by
  have known : sources.Known base chain entry := fails.1
  refine expansion_induction (motive := fun chain entry => ∀ failure,
    sources.Route base start chain (resolve base entry.file) →
    sources.Fails base chain entry failure →
      ∃ trail last, sources.Trail base chain (resolve base entry.file) trail last ∧
        sources.EndsWith chain trail last failure)
    (fun chain entry known ih failure route fails => ?_) known failure route fails
  rcases cases_of_fails fails with ⟨member, rfl⟩ | ⟨-, reason, read, rfl⟩ |
    ⟨fresh, bytes, read, front, reference, rest, parts, inner, split, all, breaks, rfl⟩
  · have ends : sources.EndsWith chain [] (resolve base entry.file) _ :=
      .cycle (by simpa using member)
    rw [List.append_nil] at ends
    exact ⟨[], _, .here _, ends⟩
  · exact ⟨[], _, .here _, .unread read⟩
  · have named : reference ∈ namedPaths bytes := by
      simp [split]
    have onward := route.append ⟨bytes, read, reference, named, rfl, breaks.1⟩
    have broken : sources.FirstBroken base (resolve base entry.file) (resolve base reference) := by
      refine ⟨bytes, read, front, reference, rest, split, rfl, fun earlier member => ?_, ?_⟩
      · obtain ⟨part, contributes⟩ := exists_forall₂_iff.mp ⟨parts, all⟩ earlier member
        exact expands_of_contributes absolute contributes
      · exact not_expands_of_breaks absolute breaks onward.leads
    have file := resolve_forInclude_file absolute entry reference
    rw [← file] at onward
    obtain ⟨trail, last, way, ends⟩ := ih bytes fresh read reference (mem_namedPaths_iff.mp named).1
      inner onward breaks.2
    rw [file] at way
    exact ⟨_ :: trail, last, way.cons (isAbsolute_resolve absolute _) fresh broken,
      ends.within way.head⟩

/-- The messages of a failed expansion lead from its source to where it fails. Each source on the
way is readable, comes once, and leads to the next one by its first include that cannot be expanded.
The way ends at a source that cannot be read, or at one that it came through, and then the message
about the cycle names the source in front as the includer. -/
theorem expand_fails_along (absolute : Path.isAbsolute base = true) {entry : Entry}
    (unified : entry.isUnified = true) {failure : Failure}
    (fails : (sources.expand base entry).result = .error failure) :
    ∃ trail last, (trail ++ [last]).head? = some (resolve base entry.file) ∧
      (trail ++ [last]).IsChain (sources.FirstBroken base) ∧
      (∀ path ∈ trail, sources.Readable path) ∧ trail.Nodup ∧
      ((∃ reason, sources.read last = .error reason ∧
          failure.messages = backMessages (trail ++ [last]) ++
            ["Failed to read unified source '" ++ last ++ "'", reason.reason.message]) ∨
        ∃ includer, trail.getLast? = some includer ∧ includer ≠ "" ∧ last ∈ trail ∧
          failure.messages = backMessages (trail ++ [last]) ++
            ["Include cycle: '" ++ includer ++ "' includes '" ++ last
              ++ "', which is already being expanded"]) := by
  obtain ⟨trail, last, way, ends⟩ := exists_trail_of_fails absolute (.start _)
    ((expand_eq_error_iff_fails unified).mp fails)
  refine ⟨trail, last, way.head, way.linked, way.readable, way.distinct, ?_⟩
  cases ends with
  | unread read =>
    refine .inl ⟨_, read, ?_⟩
    rw [Failure.messages, List.map_append, map_message_backContexts, List.append_assoc]
    rfl
  | cycle member =>
    rw [List.nil_append] at member ⊢
    obtain ⟨includer, final⟩ := Option.isSome_iff_exists.mp
      (List.getLast?_isSome.mpr (List.ne_nil_of_mem member))
    refine .inr ⟨includer, final, ?_, member, ?_⟩
    · rintro rfl
      exact absurd (way.absolute "" (List.mem_of_getLast? final)) (by decide)
    · rw [Failure.messages, map_message_backContexts, final]
      rfl

end Sources

/-- Two unified sources that include each other, the first one behind another file. -/
def FileSystem.entangled : FileSystem where
  nodes :=
    [(["r"], .directory),
      (["r", "UnifiedSource1.c"],
        .file (Utf8.encode "#include \"a.c\"\n#include \"UnifiedSource2.c\"\n")),
      (["r", "UnifiedSource2.c"], .file (Utf8.encode "#include \"UnifiedSource1.c\"\n"))]
  here := .root

/-- The cycle is reported where it closes, below both sources, and the plain file in front of the
include that fails does not show in the messages. -/
theorem entangled_fails_along :
    Path.isAbsolute "/r" = true ∧ (⟨"/d", "cc", "UnifiedSource1.c"⟩ : Entry).isUnified = true ∧
      ∃ failure, (FileSystem.entangled.view.expand "/r" ⟨"/d", "cc", "UnifiedSource1.c"⟩).result =
          .error failure ∧
        failure.messages =
          ["Failed to expand '/r/UnifiedSource2.c' included from '/r/UnifiedSource1.c'",
            "Failed to expand '/r/UnifiedSource1.c' included from '/r/UnifiedSource2.c'",
            "Include cycle: '/r/UnifiedSource2.c' includes '/r/UnifiedSource1.c', " ++
              "which is already being expanded"] := by
  have absolute : Path.isAbsolute "/r" = true := rfl
  have unified : (⟨"/d", "cc", "UnifiedSource1.c"⟩ : Entry).isUnified = true := rfl
  have first : resolve "/r" "UnifiedSource1.c" = "/r/UnifiedSource1.c" := by with_unfolding_all rfl
  have second : resolve "/r" "UnifiedSource2.c" = "/r/UnifiedSource2.c" := by
    with_unfolding_all rfl
  have leaf : Path.isUnified (resolve "/r" "a.c") = false := by with_unfolding_all rfl
  obtain ⟨bytes₁, read₁, named₁⟩ := Sources.map_namedPaths_eq_ok_iff.mp
    (show (FileSystem.entangled.view.read "/r/UnifiedSource1.c").map namedPaths =
      .ok ["a.c", "UnifiedSource2.c"] by rfl)
  obtain ⟨bytes₂, read₂, named₂⟩ := Sources.map_namedPaths_eq_ok_iff.mp
    (show (FileSystem.entangled.view.read "/r/UnifiedSource2.c").map namedPaths =
      .ok ["UnifiedSource1.c"] by rfl)
  have only₁ : ∀ included, FileSystem.entangled.view.Includes "/r" "/r/UnifiedSource1.c" included →
      included = "/r/UnifiedSource2.c" := by
    rw [Sources.forall_includes_iff read₁, named₁]
    simp [leaf, second]
  have only₂ : ∀ included, FileSystem.entangled.view.Includes "/r" "/r/UnifiedSource2.c" included →
      included = "/r/UnifiedSource1.c" := by
    rw [Sources.forall_includes_iff read₂, named₂]
    simp [first]
  have edge₁ : FileSystem.entangled.view.Includes "/r" "/r/UnifiedSource1.c"
      "/r/UnifiedSource2.c" :=
    ⟨bytes₁, read₁, "UnifiedSource2.c", by simp [named₁], second.symm, rfl⟩
  have edge₂ : FileSystem.entangled.view.Includes "/r" "/r/UnifiedSource2.c"
      "/r/UnifiedSource1.c" :=
    ⟨bytes₂, read₂, "UnifiedSource1.c", by simp [named₂], first.symm, rfl⟩
  cases result :
    (FileSystem.entangled.view.expand "/r" ⟨"/d", "cc", "UnifiedSource1.c"⟩).result with
  | ok entries =>
    have clear := (Sources.exists_expand_eq_ok_iff absolute _).mp ⟨entries, result⟩ unified
    rw [first] at clear
    exact absurd (.tail (.single edge₁) edge₂) (clear _ .refl).2.2
  | error failure =>
    refine ⟨absolute, unified, failure, rfl, ?_⟩
    obtain ⟨trail, last, head, linked, -, distinct, ends⟩ :=
      Sources.expand_fails_along absolute unified result
    rw [first] at head
    have linked := linked.imp fun _ _ broken => broken.includes absolute
    -- The way goes to the second source and back. Any other end is none, and a longer way is not
    -- free of repetition.
    match trail with
    | [] =>
      obtain rfl : last = "/r/UnifiedSource1.c" := Option.some.inj head
      rcases ends with ⟨reason, unread, -⟩ | ⟨_, _, _, member, -⟩
      · cases read₁.symm.trans unread
      · cases member
    | [one] =>
      obtain rfl : one = "/r/UnifiedSource1.c" := Option.some.inj head
      obtain rfl := only₁ last (List.isChain_cons_cons.mp linked).1
      rcases ends with ⟨reason, unread, -⟩ | ⟨_, _, _, member, -⟩
      · cases read₂.symm.trans unread
      · exact absurd member (by decide)
    | [one, two] =>
      obtain rfl : one = "/r/UnifiedSource1.c" := Option.some.inj head
      obtain ⟨step, linked⟩ := List.isChain_cons_cons.mp linked
      obtain rfl := only₁ two step
      obtain rfl := only₂ last (List.isChain_cons_cons.mp linked).1
      rcases ends with ⟨reason, unread, -⟩ | ⟨includer, final, -, -, messages⟩
      · cases read₁.symm.trans unread
      · obtain rfl : "/r/UnifiedSource2.c" = includer := Option.some.inj final
        exact messages
    | one :: two :: three :: rest =>
      obtain rfl : one = "/r/UnifiedSource1.c" := Option.some.inj head
      obtain ⟨step, linked⟩ := List.isChain_cons_cons.mp linked
      obtain rfl := only₁ two step
      obtain rfl := only₂ three (List.isChain_cons_cons.mp linked).1
      simp at distinct

end UnityBuild
