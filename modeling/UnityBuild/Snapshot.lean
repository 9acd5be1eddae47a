import UnityBuild.Refinement

/-!
# Snapshots

A refinement reads unified sources only, and the text of one source tells which others may be read
next. So a part of a file system is enough to refine a database: what came of reading those files,
which roots are directories, and where relative paths start. A snapshot holds that part. Files
outside it count as missing.
-/

namespace UnityBuild

structure Snapshot where
  reads : List (String × Except ReadFailure Bytes)
  directories : List String
  here : Except IoFailure String

namespace Snapshot

def read (snapshot : Snapshot) (path : String) : Except ReadFailure Bytes :=
  (snapshot.reads.lookup path).getD (.error (.opening .notFound))

def texts (snapshot : Snapshot) : List Bytes :=
  snapshot.reads.filterMap (·.2.toOption)

theorem mem_texts {snapshot : Snapshot} {path : String} {bytes : Bytes}
    (h : snapshot.read path = .ok bytes) : bytes ∈ snapshot.texts := by
  unfold read at h
  cases found : snapshot.reads.lookup path with
  | none => simp [found] at h
  | some result =>
    simp only [found, Option.getD_some] at h
    subst h
    suffices ∀ reads : List (String × Except ReadFailure Bytes),
        reads.lookup path = some (.ok bytes) → bytes ∈ reads.filterMap (·.2.toOption) from
      this _ found
    intro reads hreads
    induction reads with
    | nil => simp at hreads
    | cons first rest ih =>
      rw [List.lookup_cons] at hreads
      split at hreads
      · obtain ⟨name, outcome⟩ := first
        simp only [Option.some.injEq] at hreads
        simp [hreads, Except.toOption]
      · have := ih hreads
        simp only [List.filterMap_cons]
        split <;> simp_all

def view (snapshot : Snapshot) : View where
  read := snapshot.read
  texts := snapshot.texts
  mem_texts := mem_texts
  isDirectory := snapshot.directories.contains
  currentDirectory := snapshot.here

/-- The paths that a refinement reads first: those of its unified entries. The rest is found from
here by following the texts that were read. -/
def firstReads (base : String) (entries : List Entry) : List String :=
  (entries.filter (·.isUnified)).map fun entry => resolve base entry.file

/-- The paths that the text of a unified source asks for. Includes that are not unified are never
read, so they are left out here. -/
def furtherReads (base : String) (bytes : Bytes) : List String :=
  (((includedPaths bytes).filter (!·.isEmpty)).map fun path =>
    (⟨"", "", resolve base path⟩ : Entry)).filter (·.isUnified) |>.map
      fun entry => resolve base entry.file

end Snapshot

end UnityBuild
