import UnityBuild.Include
import UnityBuild.Proofs.Text.Replace

/-!
# Includes line by line

An include is its opening, a path without a quote and without the end of a line, and a quote. So
all of it stands on one line, and a text may be cut at the end of a line and its parts be scanned
apart. In the same way nothing reaches into a text without quotes.

A path that stands on a line of its own, written as an include, is what the scan of this line finds.
Together, writing paths line by line and scanning the lines gives the paths back.
-/

namespace UnityBuild.Include

namespace Marks

section Scan

variable {α : Type} {marks : Marks α} {path : List α}

/-- The paths that can stand between the quotes. -/
def AdmitsAll (marks : Marks α) (path : List α) : Prop :=
  ∀ letter ∈ path, letter ≠ marks.quote ∧ letter ∉ marks.lineEnds

/-- A path, written as an include. -/
def directive (marks : Marks α) (path : List α) : List α :=
  marks.opening ++ path ++ [marks.quote]

/-- The marks stand on one line: neither the text that opens an include nor the quote that closes it
holds the end of a line. -/
structure OnOneLine (marks : Marks α) : Prop where
  opening : ∀ letter ∈ marks.opening, letter ∉ marks.lineEnds
  quote : marks.quote ∉ marks.lineEnds

theorem directive_eq_append (marks : Marks α) (path : List α) :
    marks.directive path = marks.opening ++ (path ++ [marks.quote]) :=
  List.append_assoc _ _ _

@[simp] theorem length_directive (marks : Marks α) (path : List α) :
    (marks.directive path).length = marks.opening.length + path.length + 1 := by
  simp [directive]
  omega

theorem directive_ne_nil (marks : Marks α) (path : List α) : marks.directive path ≠ [] := by
  simp [directive]

theorem OnOneLine.not_mem_directive (oneLine : marks.OnOneLine) (admitted : marks.AdmitsAll path)
    {lineEnd : α} (ends : lineEnd ∈ marks.lineEnds) : lineEnd ∉ marks.directive path := by
  intro member
  rcases List.mem_append.mp member with member | member
  · rcases List.mem_append.mp member with member | member
    · exact oneLine.opening lineEnd member ends
    · exact (admitted lineEnd member).2 ends
  · rw [List.mem_singleton.mp member] at ends
    exact oneLine.quote ends

variable [BEq α] {text back rest : List α} {lineEnd : α}

theorem scan_skip (marks : Marks α) (front rest : List α) :
    marks.scan front.length (front ++ rest) = marks.scan 0 rest := by
  induction front with
  | nil => rfl
  | cons letter front ih => exact ih

/-- Where no include begins, the scan goes on with the next letter. -/
theorem scan_cons_of_absent {letter : α} (absent : marks.capture? (letter :: rest) = none) :
    marks.scan 0 (letter :: rest) = marks.scan 0 rest := by
  rw [scan, absent]

variable [LawfulBEq α]

theorem admits_iff {letter : α} :
    marks.admits letter = true ↔ letter ≠ marks.quote ∧ letter ∉ marks.lineEnds := by
  simp [admits]

@[simp] theorem admits_quote (marks : Marks α) : marks.admits marks.quote = false := by
  simp [admits]

theorem capture?_directive_append (admitted : marks.AdmitsAll path) (behind : List α) :
    marks.capture? (marks.directive path ++ behind) = some path := by
  have opened : marks.opening.isPrefixOf (marks.directive path ++ behind) = true := by
    rw [List.isPrefixOf_iff_prefix, directive_eq_append, List.append_assoc]
    exact List.prefix_append _ _
  have body : (marks.directive path ++ behind).drop marks.opening.length =
      path ++ marks.quote :: behind := by
    simp [directive]
  have letters : ∀ letter ∈ path, marks.admits letter = true := fun letter member =>
    admits_iff.mpr (admitted letter member)
  unfold capture?
  simp only [if_pos opened, body, List.dropWhile_append_of_pos letters,
    List.takeWhile_append_of_pos letters]
  simp

theorem written_of_capture? (captured : marks.capture? text = some path) :
    marks.AdmitsAll path ∧ marks.directive path <+: text := by
  unfold capture? at captured
  split at captured
  · rename_i opened
    obtain ⟨body, rfl⟩ := List.isPrefixOf_iff_prefix.mp opened
    simp only [List.drop_left] at captured
    split at captured
    · rename_i closed
      obtain rfl := Option.some.inj captured
      obtain ⟨behind, split⟩ := List.head?_eq_some_iff.mp (eq_of_beq closed)
      refine ⟨fun letter member => admits_iff.mp
        (List.all_eq_true.mp List.all_takeWhile letter member), behind, ?_⟩
      rw [directive, List.append_assoc, List.append_assoc, List.singleton_append, ← split,
        List.takeWhile_append_dropWhile]
    · cases captured
  · cases captured

/-- A path is captured where it is written as an include. -/
theorem capture?_eq_some_iff :
    marks.capture? text = some path ↔ marks.AdmitsAll path ∧ marks.directive path <+: text := by
  refine ⟨written_of_capture?, ?_⟩
  rintro ⟨admitted, behind, rfl⟩
  exact capture?_directive_append admitted behind

@[simp] theorem capture?_nil (marks : Marks α) : marks.capture? [] = none := by
  rw [Option.eq_none_iff_forall_ne_some]
  intro path captured
  obtain ⟨-, begins⟩ := capture?_eq_some_iff.mp captured
  exact marks.directive_ne_nil path (List.prefix_nil.mp begins)

/-- An include is found, and the scan goes on behind it. -/
theorem scan_directive_append (admitted : marks.AdmitsAll path) (rest : List α) :
    marks.scan 0 (marks.directive path ++ rest) = path :: marks.scan 0 rest := by
  obtain ⟨letter, letters, split⟩ := List.exists_cons_of_ne_nil (marks.directive_ne_nil path)
  have captured := capture?_directive_append admitted rest
  have behind : marks.opening.length + path.length = letters.length := by
    simpa [split] using (marks.length_directive path).symm
  rw [split, List.cons_append] at captured ⊢
  rw [scan, captured]
  simp only [behind, scan_skip]

/-- No include that begins in front of a text reaches into it, so the scan of the two together finds
what the scans of each of them find. -/
def Apart (marks : Marks α) (back : List α) : Prop :=
  ∀ front, marks.capture? (front ++ back) = marks.capture? front

/-- It is enough that an include which begins in front of the text ends there. -/
theorem apart_of_prefix
    (stops : ∀ path, marks.AdmitsAll path → ∀ front, marks.directive path <+: front ++ back →
      marks.directive path <+: front) : marks.Apart back := by
  intro front
  refine Option.ext fun path => ?_
  rw [capture?_eq_some_iff, capture?_eq_some_iff]
  exact and_congr_right fun admitted =>
    ⟨stops path admitted front, fun begins => begins.trans (List.prefix_append front back)⟩

theorem Apart.capture?_eq_none (apart : marks.Apart back) : marks.capture? back = none := by
  simpa using apart []

theorem OnOneLine.apart (oneLine : marks.OnOneLine) (ends : lineEnd ∈ marks.lineEnds)
    (rest : List α) : marks.Apart (lineEnd :: rest) :=
  apart_of_prefix fun _ admitted _ begins =>
    Text.prefix_of_prefix_append_cons (oneLine.not_mem_directive admitted ends) begins

/-- The quote that closes an include stands in no text without quotes. -/
theorem apart_of_unquoted (unquoted : marks.quote ∉ back) : marks.Apart back := by
  refine apart_of_prefix fun path _ front begins => ?_
  obtain ⟨behind, whole⟩ := begins
  rcases List.append_eq_append_iff.mp whole with ⟨more, rfl, -⟩ | ⟨more, reached, rfl⟩
  · exact List.prefix_append _ _
  · rcases List.eq_nil_or_concat' more with rfl | ⟨letters, last, rfl⟩
    · rw [List.append_nil] at reached
      rw [reached]
    · have closing : marks.quote = last := by
        simpa [directive] using congrArg List.getLast? reached
      exact absurd (by simp [closing]) unquoted

/-- A text is scanned apart from what no include reaches into. The letters that are skipped belong
to an include of the text, so there are not more of them than the text has. -/
theorem Apart.scan_append (apart : marks.Apart back) {skip : Nat} (within : skip ≤ text.length) :
    marks.scan skip (text ++ back) = marks.scan skip text ++ marks.scan 0 back := by
  induction text generalizing skip with
  | nil =>
    obtain rfl : skip = 0 := by simpa using within
    rfl
  | cons letter text ih =>
    cases skip with
    | succ skip => exact ih (by simpa using within)
    | zero =>
      have begins := apart (letter :: text)
      rw [List.cons_append] at begins ⊢
      cases captured : marks.capture? (letter :: text) with
      | none =>
        rw [captured] at begins
        rw [scan_cons_of_absent begins, scan_cons_of_absent captured, ih (Nat.zero_le _)]
      | some path =>
        have inside := (capture?_eq_some_iff.mp captured).2.length_le
        rw [length_directive, List.length_cons] at inside
        rw [captured] at begins
        rw [scan, scan, begins, captured]
        simp only [List.cons_append, ih (Nat.le_of_succ_le_succ inside)]

/-- Nothing is found in a text without quotes. -/
theorem scan_of_unquoted (unquoted : marks.quote ∉ text) : marks.scan 0 text = [] := by
  induction text with
  | nil => rfl
  | cons letter text ih =>
    rw [scan_cons_of_absent (apart_of_unquoted unquoted).capture?_eq_none]
    exact ih fun member => unquoted (List.mem_cons_of_mem letter member)

theorem scan_append_of_unquoted (unquoted : marks.quote ∉ back) (text : List α) :
    marks.scan 0 (text ++ back) = marks.scan 0 text := by
  rw [(apart_of_unquoted unquoted).scan_append (Nat.zero_le _), scan_of_unquoted unquoted,
    List.append_nil]

theorem OnOneLine.scan_cons (oneLine : marks.OnOneLine) (ends : lineEnd ∈ marks.lineEnds)
    (rest : List α) : marks.scan 0 (lineEnd :: rest) = marks.scan 0 rest :=
  scan_cons_of_absent (oneLine.apart ends rest).capture?_eq_none

theorem OnOneLine.scan_append_of_lineEnds (oneLine : marks.OnOneLine) {lineBreak : List α}
    (ends : ∀ letter ∈ lineBreak, letter ∈ marks.lineEnds) (rest : List α) :
    marks.scan 0 (lineBreak ++ rest) = marks.scan 0 rest := by
  induction lineBreak with
  | nil => rfl
  | cons letter lineBreak ih =>
    rw [List.cons_append, oneLine.scan_cons (ends letter (by simp))]
    exact ih fun other member => ends other (by simp [member])

/-- Lines are scanned apart. What stands in front of the end of a line, even an include that is not
closed, changes nothing about what is found behind it. -/
theorem OnOneLine.scan_append_append (oneLine : marks.OnOneLine) {lineBreak : List α}
    (nonempty : lineBreak ≠ []) (ends : ∀ letter ∈ lineBreak, letter ∈ marks.lineEnds)
    (text rest : List α) :
    marks.scan 0 (text ++ lineBreak ++ rest) = marks.scan 0 text ++ marks.scan 0 rest := by
  obtain ⟨lineEnd, more, rfl⟩ := List.exists_cons_of_ne_nil nonempty
  have apart := oneLine.apart (ends lineEnd (by simp)) (more ++ rest)
  have onward := oneLine.scan_append_of_lineEnds ends rest
  rw [List.cons_append] at onward
  rw [List.append_assoc, List.cons_append, apart.scan_append (Nat.zero_le _), onward]

/-- An include that is not closed on its line hides nothing behind the line. -/
theorem OnOneLine.scan_unclosed (oneLine : marks.OnOneLine) (admitted : marks.AdmitsAll path)
    (ends : ∀ letter, back.head? = some letter → letter ∈ marks.lineEnds) (front : List α) :
    marks.scan 0 (front ++ path ++ back) = marks.scan 0 front ++ marks.scan 0 back := by
  have unquoted : marks.quote ∉ path := fun member => (admitted _ member).1 rfl
  have line := scan_append_of_unquoted unquoted front
  cases back with
  | nil => simpa [scan] using line
  | cons lineEnd rest =>
    rw [(oneLine.apart (ends lineEnd rfl) rest).scan_append (Nat.zero_le _), line]

/-- Includes that are written line by line are found in their order. -/
theorem OnOneLine.scan_flatMap (oneLine : marks.OnOneLine) {lineBreak : List α}
    (ends : ∀ letter ∈ lineBreak, letter ∈ marks.lineEnds) {included : List (List α)}
    (admitted : ∀ path ∈ included, marks.AdmitsAll path) :
    marks.scan 0 (included.flatMap fun path => marks.directive path ++ lineBreak) = included := by
  induction included with
  | nil => rfl
  | cons path others ih =>
    rw [List.flatMap_cons, List.append_assoc, scan_directive_append (admitted path (by simp)),
      oneLine.scan_append_of_lineEnds ends,
      ih fun other member => admitted other (by simp [member])]

theorem OnOneLine.scan_intercalate (oneLine : marks.OnOneLine) {lineBreak : List α}
    (ends : ∀ letter ∈ lineBreak, letter ∈ marks.lineEnds) {included : List (List α)}
    (admitted : ∀ path ∈ included, marks.AdmitsAll path) :
    marks.scan 0 (lineBreak.intercalate (included.map marks.directive)) = included := by
  induction included with
  | nil => rfl
  | cons path others ih =>
    have first := scan_directive_append (admitted path (by simp))
    have onward := ih fun other member => admitted other (by simp [member])
    cases others with
    | nil => simpa [scan] using first []
    | cons second others =>
      rw [List.map_cons, List.map_cons, List.intercalate_cons_cons, List.append_assoc, first,
        oneLine.scan_append_of_lineEnds ends, ← List.map_cons, onward]

end Scan

theorem admitsAll_characters_iff {path : List Char} :
    characters.AdmitsAll path ↔
      ∀ letter ∈ path, letter ≠ '"' ∧ letter ≠ '\r' ∧ letter ≠ '\n' := by
  have ends : ∀ letter, letter ∉ characters.lineEnds ↔ letter ≠ '\r' ∧ letter ≠ '\n' := by
    intro letter
    change letter ∉ ['\r', '\n'] ↔ _
    rw [List.mem_cons, List.mem_singleton, not_or]
  exact forall₂_congr fun letter _ => and_congr_right fun _ => ends letter

theorem characters_onOneLine : characters.OnOneLine where
  opening := by
    have apart : characters.opening.all (!characters.lineEnds.contains ·) = true := by decide
    simpa using apart
  quote := by decide

end Marks

def lineBreaks : List (List Char) :=
  [['\n'], ['\r'], ['\r', '\n']]

def line (path : String) : List Char :=
  characters.directive path.toList

theorem lineEnds_of_mem_lineBreaks {lineBreak : List Char} (member : lineBreak ∈ lineBreaks) :
    lineBreak ≠ [] ∧ ∀ letter ∈ lineBreak, letter ∈ characters.lineEnds := by
  have all : ∀ lineBreak ∈ lineBreaks,
      lineBreak ≠ [] ∧ lineBreak.all (characters.lineEnds.contains ·) = true := by decide
  simpa using all lineBreak member

/-- Lines are extracted from one by one, however they end, and paths that are written line by line
are extracted as they were. -/
theorem paths_line_by_line {lineBreak : List Char} (member : lineBreak ∈ lineBreaks) :
    (∀ text rest, paths (text ++ lineBreak ++ rest) = paths text ++ paths rest) ∧
      ∀ included : List String,
        (∀ path ∈ included, ∀ letter ∈ path.toList, letter ≠ '"' ∧ letter ≠ '\r' ∧ letter ≠ '\n') →
        paths (included.flatMap fun path => line path ++ lineBreak) = included ∧
          paths (lineBreak.intercalate (included.map line)) = included := by
  obtain ⟨nonempty, ends⟩ := lineEnds_of_mem_lineBreaks member
  have oneLine := Marks.characters_onOneLine
  refine ⟨fun text rest => ?_, fun included plain => ?_⟩
  · rw [paths, oneLine.scan_append_append nonempty ends, List.map_append]
    rfl
  · have admitted : ∀ path ∈ included.map String.toList, characters.AdmitsAll path := by
      intro path among letter inside
      obtain ⟨text, written, rfl⟩ := List.mem_map.mp among
      exact Marks.admitsAll_characters_iff.mpr (plain text written) letter inside
    have extracted : ∀ text, characters.scan 0 text = included.map String.toList →
        paths text = included := by
      intro text found
      rw [paths, found]
      simp
    have terminated := oneLine.scan_flatMap ends admitted
    have separated := oneLine.scan_intercalate ends admitted
    rw [List.flatMap_map] at terminated
    rw [List.map_map] at separated
    exact ⟨extracted _ terminated, extracted _ separated⟩

/-- An include that is not closed leaves the next line alone, and an empty path and one that holds
the beginning of another include are extracted as they were written. -/
theorem carriageReturn_line_by_line :
    ['\r', '\n'] ∈ lineBreaks ∧
    paths ("#include \"a".toList ++ ['\r', '\n'] ++ "#include \"b\"".toList) = ["b"] ∧
    (∀ path ∈ ["", "#include c"], ∀ letter ∈ path.toList,
      letter ≠ '"' ∧ letter ≠ '\r' ∧ letter ≠ '\n') ∧
    paths "#include \"\"\r\n#include \"#include c\"".toList = ["", "#include c"] := by
  have member : ['\r', '\n'] ∈ lineBreaks := by decide
  have plain : ∀ path ∈ ["", "#include c"], ∀ letter ∈ path.toList,
      letter ≠ '"' ∧ letter ≠ '\r' ∧ letter ≠ '\n' := by simp
  obtain ⟨lines, written⟩ := paths_line_by_line member
  exact ⟨member, lines _ _, plain, (written _ plain).2⟩

end UnityBuild.Include
