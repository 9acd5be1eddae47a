import UnityBuild.Proofs.Entry.Classification
import UnityBuild.Proofs.Path.Joining

/-!
# Classification by the base name

Whatever stands in front of the last slash before a name, and whatever idle pieces stand behind
the name, the base name is that name. Extension, unified mark and recognition are read off the base
name, and recognition does not see the case of its ASCII letters. Resolving from any base, absolute
or not, keeps the base name of a path that has one, so every classification is kept with it.
-/

namespace UnityBuild

namespace Path

variable {path name other : String} {trail : List String}

/-- Slashes, and slashes with a dot behind them. -/
def IsTrail (trail : List String) : Prop :=
  ∀ part ∈ trail, part = "/" ∨ part = "/."

theorem steps_slash (path : String) : steps (path ++ "/") = steps path := by
  simpa using steps_append_slash path ""

theorem steps_slash_dot (path : String) : steps (path ++ "/.") = steps path := by
  have dot : steps "." = [] := rfl
  have split : path ++ "/." = path ++ "/" ++ "." := by
    rw [String.append_assoc]
    rfl
  rw [split, steps_append_slash, dot, List.append_nil]

theorem steps_append_trail (idle : IsTrail trail) (path : String) :
    steps (path ++ String.join trail) = steps path := by
  induction trail generalizing path with
  | nil => simp
  | cons part trail ih =>
    have others := fun other member => idle other (List.mem_cons_of_mem _ member)
    have onward := ih others (path ++ part)
    rw [String.join_cons, ← String.append_assoc, onward]
    rcases idle part List.mem_cons_self with rfl | rfl
    · exact steps_slash path
    · exact steps_slash_dot path

/-- A name is the base name, whatever stands in front of its slash and whatever trails behind it. -/
theorem baseName?_between (slashless : '/' ∉ name.toList) (named : isName name = true)
    (idle : IsTrail trail) (directory : String) :
    baseName? (directory ++ "/" ++ name ++ String.join trail) = some name := by
  rw [baseName?_eq, steps_append_trail idle, steps_append_slash, steps_of_isName slashless named,
    List.getLast?_append]
  simp [named]

theorem baseName?_alone (slashless : '/' ∉ name.toList) (named : isName name = true) :
    baseName? name = some name := by
  rw [baseName?_eq, steps_of_isName slashless named]
  simp [named]

/-- A text with its ASCII letters in lower case. -/
def lowered (text : String) : String :=
  String.ofList (text.toList.map Char.toLower)

@[simp] theorem toList_lowered (text : String) :
    (lowered text).toList = text.toList.map Char.toLower :=
  String.toList_ofList

/-- The marks in front of the letters are their own lower case only. -/
theorem toLower_eq_iff {letter mark : Char} (early : mark < 'A') :
    letter.toLower = mark ↔ letter = mark := by
  unfold Char.toLower
  split
  · rename_i upper
    obtain ⟨lowest, highest⟩ := upper
    have low : 65 ≤ letter.val.toNat := lowest
    have high : letter.val.toNat ≤ 90 := highest
    have below : mark.val.toNat < 65 := early
    have moved : (letter.val + 32).toNat = letter.val.toNat + 32 := by
      rw [UInt32.toNat_add]
      exact Nat.mod_eq_of_lt (Nat.lt_of_le_of_lt (Nat.add_le_add_right high 32) (by decide))
    constructor
    · rintro rfl
      have : (letter.val + 32).toNat < 65 := early
      omega
    · rintro rfl
      omega
  · rfl

theorem slash_mem_lowered_iff : '/' ∈ (lowered name).toList ↔ '/' ∈ name.toList := by
  have slash : ∀ letter : Char, letter.toLower = '/' ↔ letter = '/' :=
    fun _ => toLower_eq_iff (by decide)
  simp [slash]

theorem lowered_eq_dots_iff (count : Nat) :
    lowered name = String.ofList (List.replicate count '.') ↔
      name = String.ofList (List.replicate count '.') := by
  have dot : ∀ letter : Char, letter.toLower = '.' ↔ letter = '.' :=
    fun _ => toLower_eq_iff (by decide)
  simp [← String.toList_inj, List.eq_replicate_iff, dot]

/-- A name stays one in lower case, and nothing else becomes one. -/
theorem isName_lowered (name : String) : isName (lowered name) = isName name := by
  have empty : lowered name = "" ↔ name = "" := lowered_eq_dots_iff 0
  have dot : lowered name = "." ↔ name = "." := lowered_eq_dots_iff 1
  have dots : lowered name = ".." ↔ name = ".." := lowered_eq_dots_iff 2
  rw [Bool.eq_iff_iff]
  simp [isName, isIdle, empty, dot, dots]

/-- The extension of a name in lower case is its extension in lower case. -/
theorem extension?_lowered (name : String) :
    extension? (lowered name) = (extension? name).map lowered := by
  have dots : (fun letter : Char => letter != '.') ∘ Char.toLower = (· != '.') := by
    funext letter
    have dot : letter.toLower = '.' ↔ letter = '.' := toLower_eq_iff (by decide)
    simp [bne, Bool.beq_eq_decide_eq, dot]
  unfold extension?
  simp only [toList_lowered, ← List.map_reverse, List.dropWhile_map, List.takeWhile_map, dots]
  rcases name.toList.reverse.dropWhile (· != '.') with - | ⟨first, - | ⟨second, rest⟩⟩ <;>
    simp [lowered]

end Path

/-- The base name of a normal path is its last name, if it has one. -/
theorem NormalPath.baseName?_text {path : NormalPath} (spelled : path.IsSpelled) :
    Path.baseName? path.text = path.names.getLast? := by
  rw [Path.baseName?_eq, steps_text spelled]
  obtain ⟨anchor, names⟩ := path
  cases last : names.getLast? with
  | some name =>
    have named : Path.isName name = true := (spelled name (List.mem_of_getLast? last)).1
    cases anchor <;> simp [steps, last, named]
  | none =>
    -- What is left are steps up, and those are no names.
    cases anchor with
    | root => simp [steps, last]
    | above levels =>
      rw [steps, List.getLast?_append, last, List.getLast?_replicate]
      split <;> simp

/-- A reference keeps its base name from every base, be it absolute or not. -/
theorem baseName?_resolve_of_named {reference name : String}
    (named : Path.baseName? reference = some name) (base : String) :
    Path.baseName? (resolve base reference) = some name := by
  rw [resolve_eq, NormalPath.baseName?_text (NormalPath.isSpelled_ofText _)]
  exact NormalPath.getLast?_names_ofText (Path.baseName?_join named base)

namespace Entry

/-- No question about base names tells two entries apart. Equal base names are enough for that, and
an entry keeps its answers when the path in front of its base name changes. -/
structure IsClassedLike (entry other : Entry) : Prop where
  baseName : entry.baseName = other.baseName
  extension : entry.extension? = other.extension?
  unified : entry.isUnified = other.isUnified
  recognized : entry.isRecognized = other.isRecognized

theorem IsClassedLike.of_baseName {entry other : Entry} (same : entry.baseName = other.baseName) :
    entry.IsClassedLike other := by
  have extension : entry.extension? = other.extension? := by rw [extension?, same, extension?]
  refine ⟨same, extension, ?_, ?_⟩
  · rw [isUnified, same, isUnified]
  · rw [isRecognized, extension, isRecognized]

theorem isRecognized_eq (entry : Entry) :
    entry.isRecognized =
      (Path.extension? (Path.lowered entry.baseName)).elim false (knownExtensions.contains ·) := by
  rw [Path.extension?_lowered, isRecognized, extension?]
  cases Path.extension? entry.baseName with
  | none => rfl
  | some extension =>
    rw [Option.map_some, Option.elim_some, List.contains_eq_any_beq]
    refine congrArg (knownExtensions.any ·) (funext fun known => ?_)
    rw [Bool.eq_iff_iff, beq_iff_eq, beq_iff_eq, ← Path.toList_lowered, String.toList_inj]
    exact eq_comm

/-- Between a directory and a trail, a name alone decides how an entry is classified, and the case
of its ASCII letters does not count for recognition. Resolving a file that has a base name, from
whatever base, changes nothing about its classification. -/
theorem classified_by_baseName :
    (∀ (directory name : String) (trail : List String) (entry : Entry), '/' ∉ name.toList →
      name ≠ "" → name ≠ "." → name ≠ ".." → Path.IsTrail trail →
      entry.file = directory ++ "/" ++ name ++ String.join trail →
        entry.baseName = name ∧ entry.IsClassedLike { entry with file := name } ∧
          ∀ changed, Path.lowered changed = Path.lowered name →
            Entry.isRecognized
              { entry with file := directory ++ "/" ++ changed ++ String.join trail } =
                entry.isRecognized) ∧
      ∀ (base : String) (entry : Entry), Path.baseName? entry.file ≠ none →
        (entry.resolved base).IsClassedLike entry := by
  constructor
  · intro directory name trail entry slashless filled dot dots idle file
    have named : Path.isName name = true := by simp [Path.isName, Path.isIdle, filled, dot, dots]
    have baseName : entry.baseName = name := by
      rw [Entry.baseName, Path.baseName, file, Path.baseName?_between slashless named idle]
      rfl
    refine ⟨baseName, .of_baseName ?_, ?_⟩
    · rw [baseName, Entry.baseName, Path.baseName, Path.baseName?_alone slashless named]
      rfl
    · intro changed sameLetters
      have slashless' : '/' ∉ changed.toList := by
        rwa [← Path.slash_mem_lowered_iff, sameLetters, Path.slash_mem_lowered_iff]
      have named' : Path.isName changed = true := by
        rw [← Path.isName_lowered, sameLetters, Path.isName_lowered, named]
      rw [isRecognized_eq, isRecognized_eq entry, baseName, ← sameLetters, Entry.baseName,
        Path.baseName, Path.baseName?_between slashless' named' idle]
      rfl
  · intro base entry named
    obtain ⟨name, named⟩ := Option.ne_none_iff_exists'.mp named
    apply IsClassedLike.of_baseName
    rw [Entry.baseName, Entry.baseName, Path.baseName, Path.baseName, resolved_file,
      baseName?_resolve_of_named named, named]

/-- A name with two dots behind a directory of dots, and a relative base that climbs. -/
theorem dotted_classified :
    Entry.baseName ⟨"/d", "cc", "..//./UnifiedSource.d.C//./"⟩ = "UnifiedSource.d.C" ∧
      Entry.isRecognized ⟨"/d", "cc", "..//./unifiedsource.D.c//./"⟩ =
        Entry.isRecognized ⟨"/d", "cc", "..//./UnifiedSource.d.C//./"⟩ ∧
      (Entry.resolved ⟨"/d", "cc", "../../b.mm/."⟩ "../a").IsClassedLike
        ⟨"/d", "cc", "../../b.mm/."⟩ := by
  have idle : Path.IsTrail ["/", "/.", "/"] := by simp [Path.IsTrail]
  have between := classified_by_baseName.1 "..//." "UnifiedSource.d.C" ["/", "/.", "/"]
    ⟨"/d", "cc", "..//./UnifiedSource.d.C//./"⟩ (by decide) (by decide) (by decide) (by decide)
    idle rfl
  have sameLetters : Path.lowered "unifiedsource.D.c" = Path.lowered "UnifiedSource.d.C" := by
    rw [← String.toList_inj, Path.toList_lowered, Path.toList_lowered]
    decide
  have kept := classified_by_baseName.2 "../a" ⟨"/d", "cc", "../../b.mm/."⟩ (by decide)
  exact ⟨between.1, between.2.2 "unifiedsource.D.c" sameLetters, kept⟩

end Entry

end UnityBuild
