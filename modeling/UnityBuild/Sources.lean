import UnityBuild.FileSystem.Access
import UnityBuild.Include
import UnityBuild.Path.Normal

/-!
# Readable sources

An expansion reads files by their paths and nothing else. It does not need to know how a path is
walked, only that what can be read is one of finitely many texts. The files that these texts include
are the candidates for further reading, which is why every expansion ends.

A view adds what is asked about directories: whether the indexing root is one, and where relative
paths start.

A source is asked for by the text of its path. What lies below a directory whose name is not text
cannot be asked for, so every statement about sources is about paths that are text.
-/

namespace UnityBuild

/-- The files that can be read, each holding one of finitely many texts. -/
structure Sources where
  read : String → Except ReadFailure Bytes
  texts : List Bytes
  mem_texts : ∀ {path : String} {bytes : Bytes}, read path = .ok bytes → bytes ∈ texts

/-- The paths that a source includes. Bytes that are no characters are replaced by marks before the
text is searched, so a source need not be well encoded. -/
def includedPaths (bytes : Bytes) : List String :=
  Include.paths (Utf8.decodeLossy bytes)

/-- The path at which an included unified source is read. Its entry holds the included path read
from the base, and the file of an entry is read from the base again. -/
def nestedPath (base path : String) : String :=
  resolve base (resolve base path)

namespace Sources

/-- The paths at which included unified sources can be read, whatever entry an expansion starts
with. There are finitely many of them, since there are finitely many texts. -/
def candidates (sources : Sources) (base : String) : List String :=
  sources.texts.flatMap fun bytes => (includedPaths bytes).map (nestedPath base)

theorem nestedPath_mem_candidates {sources : Sources} {path : String} {bytes : Bytes}
    (h : sources.read path = .ok bytes) (base : String) :
    ∀ included ∈ includedPaths bytes, nestedPath base included ∈ sources.candidates base :=
  fun _ hincluded => List.mem_flatMap.2
    ⟨bytes, sources.mem_texts h, List.mem_map.2 ⟨_, hincluded, rfl⟩⟩

end Sources

/-- What a refinement asks of a file system: its sources, which paths are directories, and from
where relative paths are read. Nothing else about it can influence a refinement. -/
structure View extends Sources where
  isDirectory : String → Bool
  currentDirectory : Except IoFailure String

def FileSystem.view (fs : FileSystem) : View where
  read := fs.read
  texts := fs.texts
  mem_texts := mem_texts_of_read
  isDirectory := fs.isDirectory
  currentDirectory := fs.currentDirectory

end UnityBuild
