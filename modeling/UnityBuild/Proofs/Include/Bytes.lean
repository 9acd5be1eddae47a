import UnityBuild.Proofs.Include.Lines
import UnityBuild.Proofs.Text.Lossy
import UnityBuild.Sources

/-!
# Includes in bytes

The marks of an include are ASCII letters, and the bytes for these letters mean the same in every
text, whether it is well-formed or not. So a source can be scanned before it is decoded: what the
bytes between the quotes are decoded into is what stands between the quotes of the decoded text. No
malformed sequence reaches over a mark, and none of them turns into one.
-/

namespace UnityBuild.Include

open Utf8

namespace Marks

variable {α : Type} {marks : Marks α}

theorem directive_append (marks : Marks α) (path rest : List α) :
    marks.directive path ++ rest = marks.opening ++ (path ++ marks.quote :: rest) := by
  simp [directive]

/-- The paths that can stand between the quotes are those without a quote or the end of a line. -/
theorem admitsAll_iff_not_mem {path : List α} :
    marks.AdmitsAll path ↔ marks.quote ∉ path ∧ ∀ lineEnd ∈ marks.lineEnds, lineEnd ∉ path := by
  constructor
  · intro admitted
    exact ⟨fun member => (admitted _ member).1 rfl, fun lineEnd ends member =>
      (admitted _ member).2 ends⟩
  · rintro ⟨unquoted, oneLine⟩ letter member
    refine ⟨?_, fun ends => oneLine letter ends member⟩
    rintro rfl
    exact unquoted member

theorem scan_append_of_unopened [BEq α] [LawfulBEq α] {first : α} {front : List α}
    (opened : marks.opening.head? = some first) (absent : first ∉ front) (rest : List α) :
    marks.scan 0 (front ++ rest) = marks.scan 0 rest := by
  induction front with
  | nil => rfl
  | cons letter front ih =>
    rw [List.mem_cons, not_or] at absent
    obtain ⟨opening, split⟩ := List.head?_eq_some_iff.mp opened
    have nothing : marks.capture? (letter :: (front ++ rest)) = none := by
      rw [Option.eq_none_iff_forall_ne_some]
      intro path captured
      obtain ⟨-, begins⟩ := capture?_eq_some_iff.mp captured
      rw [directive_eq_append, split, List.cons_append, List.cons_prefix_cons] at begins
      exact absent.1 begins.1
    rw [List.cons_append, scan_cons_of_absent nothing, ih absent.2]

end Marks

/-! ## The marks in both alphabets -/

theorem bytes_opening : bytes.opening = characters.opening.map Char.toUInt8 := rfl

theorem bytes_quote : bytes.quote = characters.quote.toUInt8 := rfl

theorem bytes_lineEnds : bytes.lineEnds = characters.lineEnds.map Char.toUInt8 := rfl

theorem isAscii_of_mem_opening : ∀ letter ∈ characters.opening, IsAscii letter := by
  have all : characters.opening.all (IsAscii ·) = true := by decide
  simpa using all

theorem isAscii_quote : IsAscii characters.quote := by
  decide

theorem isAscii_of_mem_lineEnds : ∀ letter ∈ characters.lineEnds, IsAscii letter := by
  have all : characters.lineEnds.all (IsAscii ·) = true := by decide
  simpa using all

/-! ## Captures -/

/-- What can stand between the quotes can do so before and after it is decoded. -/
theorem admitsAll_bytes_iff {path : Bytes} :
    bytes.AdmitsAll path ↔ characters.AdmitsAll (decodeLossy path) := by
  rw [Marks.admitsAll_iff_not_mem, Marks.admitsAll_iff_not_mem, bytes_quote, bytes_lineEnds,
    mem_decodeLossy_iff isAscii_quote, List.forall_mem_map]
  refine and_congr_right fun _ => forall₂_congr fun letter ends => not_congr ?_
  exact (mem_decodeLossy_iff (isAscii_of_mem_lineEnds letter ends)).symm

theorem decodeLossy_directive_append (path rest : Bytes) :
    decodeLossy (bytes.directive path ++ rest) =
      characters.directive (decodeLossy path) ++ decodeLossy rest := by
  rw [Marks.directive_append, Marks.directive_append, bytes_opening, bytes_quote,
    decodeLossy_map_append isAscii_of_mem_opening, decodeLossy_append_cons isAscii_quote]

/-- An include begins a decoded text where its bytes begin the text. -/
theorem directive_prefix_decodeLossy_iff {text : Bytes} {path : List Char} :
    characters.directive path <+: decodeLossy text ↔
      ∃ raw, bytes.directive raw <+: text ∧ decodeLossy raw = path := by
  constructor
  · rintro ⟨behind, decoded⟩
    rw [Marks.directive_append] at decoded
    obtain ⟨body, rfl, inside⟩ :=
      exists_of_decodeLossy_eq_append isAscii_of_mem_opening decoded.symm
    obtain ⟨raw, rest, rfl, same, -⟩ := exists_of_decodeLossy_eq_append_cons isAscii_quote inside
    exact ⟨raw, ⟨rest, bytes.directive_append raw rest⟩, same⟩
  · rintro ⟨raw, ⟨rest, rfl⟩, rfl⟩
    exact ⟨decodeLossy rest, (decodeLossy_directive_append raw rest).symm⟩

/-- What is captured in a decoded text is the path captured in the text, decoded. -/
theorem capture?_decodeLossy (text : Bytes) :
    characters.capture? (decodeLossy text) = (bytes.capture? text).map decodeLossy := by
  refine Option.ext fun path => ?_
  rw [Marks.capture?_eq_some_iff, directive_prefix_decodeLossy_iff, Option.map_eq_some_iff]
  simp only [Marks.capture?_eq_some_iff, admitsAll_bytes_iff]
  constructor
  · rintro ⟨admitted, raw, begins, rfl⟩
    exact ⟨raw, ⟨admitted, begins⟩, rfl⟩
  · rintro ⟨raw, ⟨admitted, begins⟩, rfl⟩
    exact ⟨admitted, raw, begins, rfl⟩

/-! ## Scans -/

/-- Bytes beyond ASCII are passed over, and so are the letters that they are decoded into. -/
theorem scan_append_of_high {high : Bytes} (above : ∀ byte ∈ high, 0x80 ≤ byte) (rest : Bytes)
    (letters : List Char) :
    bytes.scan 0 (high ++ rest) = bytes.scan 0 rest ∧
      characters.scan 0 (decodeLossy high ++ letters) = characters.scan 0 letters := by
  have ascii : IsAscii '#' := by decide
  constructor
  · have closed : '#'.toUInt8 ∉ high := fun member => absurd (above _ member) (by decide)
    exact Marks.scan_append_of_unopened rfl closed rest
  · have closed : '#' ∉ decodeLossy high := fun member =>
      not_isAscii_of_mem_decodeLossy above _ member ascii
    exact Marks.scan_append_of_unopened rfl closed letters

/-- The scan of a decoded text finds the paths that the scan of the text finds, decoded. The
induction is on the length of the text: an include is taken as a whole, and so are bytes beyond
ASCII. -/
theorem scan_decodeLossy (text : Bytes) :
    characters.scan 0 (decodeLossy text) = (bytes.scan 0 text).map decodeLossy := by
  induction size : text.length using Nat.strongRecOn generalizing text with
  | ind bound ih =>
    obtain ⟨high, above, rfl | ⟨letter, rest, ascii, rfl⟩⟩ := exists_first_ascii text
    · obtain ⟨passed, passed'⟩ := scan_append_of_high above [] []
      rw [List.append_nil] at passed passed'
      rw [passed, passed']
      rfl
    rw [List.length_append, List.length_cons] at size
    obtain ⟨passed, passed'⟩ := scan_append_of_high above (letter.toUInt8 :: rest)
      (letter :: decodeLossy rest)
    rw [decodeLossy_append_cons ascii, passed, passed', ← decodeLossy_cons ascii]
    have decoded := capture?_decodeLossy (letter.toUInt8 :: rest)
    cases captured : bytes.capture? (letter.toUInt8 :: rest) with
    | none =>
      rw [captured, decodeLossy_cons ascii] at decoded
      rw [decodeLossy_cons ascii, Marks.scan_cons_of_absent decoded,
        Marks.scan_cons_of_absent captured]
      exact ih rest.length (by omega) rest rfl
    | some path =>
      obtain ⟨admitted, behind, whole⟩ := Marks.capture?_eq_some_iff.mp captured
      have lengths := congrArg List.length whole
      rw [List.length_append, Marks.length_directive, List.length_cons] at lengths
      rw [← whole, decodeLossy_directive_append, Marks.scan_directive_append admitted,
        Marks.scan_directive_append (admitsAll_bytes_iff.mp admitted), List.map_cons]
      exact congrArg _ (ih behind.length (by omega) behind rfl)

end UnityBuild.Include

namespace UnityBuild

/-- The paths that a source includes are those that the scan of its bytes finds, each of them
decoded on its own. So bytes that are no characters neither hide an include nor make or join any. -/
theorem includedPaths_eq_scan (source : Bytes) :
    includedPaths source = (Include.bytes.scan 0 source).map fun path =>
      String.ofList (Utf8.decodeLossy path) := by
  rw [includedPaths, Include.paths, Include.scan_decodeLossy, List.map_map]
  rfl

/-- The closing quote cuts a character off, which is read as a mark. -/
example : includedPaths (Utf8.encode "#include \"a" ++ [0xE2, 0x82] ++ Utf8.encode "\"\n") =
    ["a\uFFFD"] := by
  decide

end UnityBuild
