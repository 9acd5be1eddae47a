import Mathlib.Logic.Relation
import UnityBuild.Proofs.Expansion.InPlace
import UnityBuild.Proofs.Text.Replace

/-!
# Commands of expanded entries

Every level of an expansion rewrites the command that the level above has made. The file that one
level puts in is the file that the next level looks for. So if none of these files occurs in another
token, the next level finds what the last one has put in and nothing else, and all levels together
replace the tokens that were the first file.
-/

namespace UnityBuild

namespace Text

/-- The tokens with another file in the place of the given one. Tokens are compared as a whole,
other than by the replacement of texts that an expansion makes. -/
def replaceTokens (tokens : List String) (file other : String) : List String :=
  tokens.map fun token => if token = file then other else token

/-- A word without a blank that occurs in no token but those that are the given file. -/
structure OccursOnlyAs (word file : String) (tokens : List String) : Prop where
  solid : ' ' ∉ word.toList
  whole : ∀ token ∈ tokens, word.toList <:+: token.toList → token = file

instance (word file : String) (tokens : List String) : Decidable (OccursOnlyAs word file tokens) :=
  decidable_of_iff (' ' ∉ word.toList ∧ ∀ token ∈ tokens, word.toList <:+: token.toList →
    token = file) ⟨fun h => ⟨h.1, h.2⟩, fun h => ⟨h.1, h.2⟩⟩

variable {word file : String} {tokens : List String}

/-- Replacing a file in a command replaces its tokens, if it occurs in no token but those that are
the file as a whole. The new file may hold blanks and mention the old one. -/
theorem replace_joined (nonempty : file ≠ "") (once : OccursOnlyAs file file tokens)
    (other : String) :
    replace (" ".intercalate tokens) file other =
      " ".intercalate (replaceTokens tokens file other) :=
  replace_intercalate nonempty once.solid once.whole other

/-- A word that was put in is replaced where it was put in. -/
theorem OccursOnlyAs.replaceTokens_replaceTokens (once : OccursOnlyAs word file tokens)
    (other : String) :
    replaceTokens (replaceTokens tokens file word) word other =
      replaceTokens tokens file other := by
  simp only [replaceTokens, List.map_map]
  refine List.map_congr_left fun token member => ?_
  by_cases same : token = file
  · simp [same]
  · have distinct : token ≠ word := by
      rintro rfl
      exact same (once.whole token member (List.infix_refl _))
    simp [same, distinct]

/-- What occurred in the file only occurs only in what took its place. -/
theorem OccursOnlyAs.of_replaceTokens (once : OccursOnlyAs word file tokens) (other : String) :
    OccursOnlyAs word other (replaceTokens tokens file other) := by
  refine ⟨once.solid, fun token member inside => ?_⟩
  obtain ⟨original, among, rfl⟩ := List.mem_map.mp member
  split at inside
  · rename_i same
    simp [same]
  · rename_i kept
    exact absurd (once.whole original among inside) kept

end Text

theorem Entry.file_ne_empty_of_isUnified {entry : Entry} (unified : entry.isUnified = true) :
    entry.file ≠ "" := by
  intro empty
  have unnamed : Path.baseName? entry.file = none := by
    rw [empty]
    decide +kernel
  rw [isUnified_of_baseName?_eq_none unnamed] at unified
  cases unified

namespace Sources

open Text

variable {sources : Sources} {base : String}

/-- Along the way to an entry that is made, the files that are put in replace each other. -/
theorem command_of_makes {entry made : Entry} (makes : sources.Makes base entry made)
    (unified : entry.isUnified = true) {tokens : List String}
    (joined : entry.command = " ".intercalate tokens)
    (own : OccursOnlyAs entry.file entry.file tokens)
    (nested : ∀ inner, Relation.TransGen (sources.Nests base) entry inner →
      OccursOnlyAs inner.file entry.file tokens) :
    made.command = " ".intercalate (replaceTokens tokens entry.file made.file) := by
  induction makes generalizing tokens with
  | @plain entry _ reference _ _ _ =>
    rw [Entry.forInclude, joined]
    exact replace_joined (Entry.file_ne_empty_of_isUnified unified) own _
  | @nested entry inner made nests makes ih =>
    have below : OccursOnlyAs inner.file entry.file tokens := nested inner (.single nests)
    have rewritten : inner.command =
        " ".intercalate (replaceTokens tokens entry.file inner.file) := by
      obtain ⟨_, _, reference, _, rfl, _⟩ := nests
      rw [Entry.forInclude, joined]
      exact replace_joined (Entry.file_ne_empty_of_isUnified unified) own _
    obtain ⟨_, _, _, _, _, unifiedInner⟩ := id nests
    rw [ih unifiedInner rewritten (below.of_replaceTokens _) fun deeper way =>
      (nested deeper (.head nests way)).of_replaceTokens _, below.replaceTokens_replaceTokens]

/-- Let the command of a unified entry consist of tokens, with the entry's file among them as a
whole token only. If no source that is nested in it occurs in another token, every entry that it
expands into, at whatever depth, has these tokens with its own file in the place of the entry's
file, and has the directory of the entry. -/
theorem command_of_expand {entry : Entry} (unified : entry.isUnified = true) {tokens : List String}
    (joined : entry.command = " ".intercalate tokens)
    (own : OccursOnlyAs entry.file entry.file tokens)
    (nested : ∀ inner, Relation.TransGen (sources.Nests base) entry inner →
      OccursOnlyAs inner.file entry.file tokens)
    {entries : List Entry} (success : (sources.expand base entry).result = .ok entries) :
    ∀ made ∈ entries,
      made.command = " ".intercalate (replaceTokens tokens entry.file made.file) ∧
        made.directory = entry.directory := by
  intro made member
  have yields := (expand_eq_ok_iff_yields unified).mp success
  exact ⟨command_of_makes (makes_of_yields yields made member) unified joined own nested,
    directory_of_yields yields made member⟩

end Sources

/-- A unified source that is nested in another one. -/
def FileSystem.layered : FileSystem where
  nodes :=
    [(["r"], .directory),
      (["r", "UnifiedSource1.c"], .file (Utf8.encode "#include \"UnifiedSource2.c\"\n")),
      (["r", "UnifiedSource2.c"],
        .file (Utf8.encode "#include \"a.c\"\n#include \"b UnifiedSource1.c\"\n"))]
  here := .root

/-- The outer source expands into the two files that the inner one includes. -/
theorem layered_expand :
    (FileSystem.layered.view.expand "/r"
        ⟨"/d", "cc UnifiedSource1.c -o 1.o", "UnifiedSource1.c"⟩).result =
      .ok [⟨"/d", "cc /r/a.c -o 1.o", "/r/a.c"⟩,
        ⟨"/d", "cc /r/b UnifiedSource1.c -o 1.o", "/r/b UnifiedSource1.c"⟩] := by
  have absolute : Path.isAbsolute "/r" = true := rfl
  have outer : (⟨"/d", "cc UnifiedSource1.c -o 1.o", "UnifiedSource1.c"⟩ : Entry).isUnified =
      true := rfl
  have inner : (⟨"/d", "cc /r/UnifiedSource2.c -o 1.o", "/r/UnifiedSource2.c"⟩ : Entry).isUnified =
      true := rfl
  have named₁ : (FileSystem.layered.view.read (resolve "/r" "UnifiedSource1.c")).map namedPaths =
      .ok ["UnifiedSource2.c"] := by with_unfolding_all rfl
  have named₂ : (FileSystem.layered.view.read (resolve "/r" "/r/UnifiedSource2.c")).map namedPaths =
      .ok ["a.c", "b UnifiedSource1.c"] := by with_unfolding_all rfl
  have first : (⟨"/d", "cc UnifiedSource1.c -o 1.o", "UnifiedSource1.c"⟩ : Entry).forInclude "/r"
      "UnifiedSource2.c" = ⟨"/d", "cc /r/UnifiedSource2.c -o 1.o", "/r/UnifiedSource2.c"⟩ := by
    with_unfolding_all rfl
  have second : ["a.c", "b UnifiedSource1.c"].map
      ((⟨"/d", "cc /r/UnifiedSource2.c -o 1.o", "/r/UnifiedSource2.c"⟩ : Entry).forInclude "/r") =
        [⟨"/d", "cc /r/a.c -o 1.o", "/r/a.c"⟩,
          ⟨"/d", "cc /r/b UnifiedSource1.c -o 1.o", "/r/b UnifiedSource1.c"⟩] := by
    with_unfolding_all rfl
  have plain : ∀ entry ∈ ["a.c", "b UnifiedSource1.c"].map
      ((⟨"/d", "cc /r/UnifiedSource2.c -o 1.o", "/r/UnifiedSource2.c"⟩ : Entry).forInclude "/r"),
      entry.isUnified = false := by
    rw [second]
    decide
  have nested := Sources.expand_of_plain_includes absolute inner named₂
    (List.forall_mem_map.mp plain)
  rw [second] at nested
  refine Sources.expand_of_named absolute outer named₁ [[_, _]] ?_
  rw [List.forall₂_cons, first]
  exact ⟨nested, .nil⟩

/-- The file is replaced as a whole token at both levels, also by a file that mentions it and has a
blank in its name. -/
theorem layered_command :
    (FileSystem.layered.view.expand "/r"
        ⟨"/d", "cc UnifiedSource1.c -o 1.o", "UnifiedSource1.c"⟩).result =
      .ok [⟨"/d", "cc /r/a.c -o 1.o", "/r/a.c"⟩,
        ⟨"/d", "cc /r/b UnifiedSource1.c -o 1.o", "/r/b UnifiedSource1.c"⟩] ∧
      "cc /r/b UnifiedSource1.c -o 1.o" = " ".intercalate (Text.replaceTokens
        ["cc", "UnifiedSource1.c", "-o", "1.o"] "UnifiedSource1.c" "/r/b UnifiedSource1.c") := by
  have unified : (⟨"/d", "cc UnifiedSource1.c -o 1.o", "UnifiedSource1.c"⟩ : Entry).isUnified =
      true := rfl
  have own : Text.OccursOnlyAs "UnifiedSource1.c" "UnifiedSource1.c"
      ["cc", "UnifiedSource1.c", "-o", "1.o"] := by decide
  have files : ∀ bytes ∈ FileSystem.layered.texts, ∀ reference ∈ namedPaths bytes,
      Path.isUnified (resolve "/r" reference) = true →
      Text.OccursOnlyAs (resolve "/r" reference) "UnifiedSource1.c"
        ["cc", "UnifiedSource1.c", "-o", "1.o"] := by
    with_unfolding_all decide
  have nested : ∀ inner, Relation.TransGen (FileSystem.layered.view.Nests "/r")
      ⟨"/d", "cc UnifiedSource1.c -o 1.o", "UnifiedSource1.c"⟩ inner →
      Text.OccursOnlyAs inner.file "UnifiedSource1.c" ["cc", "UnifiedSource1.c", "-o", "1.o"] := by
    intro inner way
    obtain ⟨_, -, bytes, read, reference, named, rfl, unifiedInner⟩ :=
      Relation.TransGen.tail'_iff.mp way
    exact files bytes (FileSystem.layered.view.mem_texts read) reference named unifiedInner
  have commands := Sources.command_of_expand unified rfl own nested layered_expand
  exact ⟨layered_expand, (commands _ (.tail _ (.head _))).1⟩

end UnityBuild
