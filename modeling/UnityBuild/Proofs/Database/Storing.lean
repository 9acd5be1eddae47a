import UnityBuild.Database.File
import UnityBuild.Proofs.Database.RoundTrip
import UnityBuild.Proofs.FileSystem.Writing

/-!
# Databases in files

A database is written to a file as a whole. Once it is there its path leads to nothing but the text
of the database, and what was read from it before is of no account.
-/

namespace UnityBuild

namespace FileSystem

variable {fs after : FileSystem} {location : Location} {path : String} {entries : List Entry}
  {content : Bytes}

theorem writeDatabase_eq_ok_iff :
    (fs.writeDatabase path entries).1 = .ok () ↔
      (fs.write path (Database.render entries)).1 = .ok () := by
  change Database.ofWrite path entries (fs.write path (Database.render entries)).1 = .ok () ↔ _
  cases (fs.write path (Database.render entries)).1 with
  | ok => exact iff_of_true rfl rfl
  | error failure => cases failure <;> simp [Database.ofWrite]

/-- A database that was written to a regular file has taken the place of what it held. -/
theorem rewrites_writeDatabase (written : (fs.writeDatabase path entries).1 = .ok ())
    (regular : (fs.writeDatabase path entries).2.regular? path = some content) :
    ∃ location, Rewrites fs (fs.writeDatabase path entries).2 path location
      (Database.render entries) :=
  rewrites_write (writeDatabase_eq_ok_iff.mp written) regular

/-- The text of a database is read back from the file that holds it. -/
theorem Rewrites.readDatabase
    (rewrites : Rewrites fs after path location (Database.render entries)) :
    after.readDatabase path = .ok entries := by
  rw [FileSystem.readDatabase, rewrites.read]
  simp only [Database.ofRead, Database.parse_render]

/-- A database whose file can be created is written. -/
theorem writeDatabase_of_create (h : fs.create path = .ok (.file location)) :
    fs.writeDatabase path entries =
      (.ok (), fs.insert location (.file (Database.render entries))) := by
  simp only [writeDatabase, write_of_create h, Database.ofWrite]

theorem writeDatabase_of_create_error {failure : IoFailure} (h : fs.create path = .error failure) :
    fs.writeDatabase path entries = (.error ⟨[.createDatabase path], .io failure⟩, fs) := by
  simp only [writeDatabase, write_of_create_error h, Database.ofWrite]

/-- A database that was written to a regular file is read back from it, whatever characters its
texts have and whatever the file held before. -/
theorem readDatabase_writeDatabase (written : (fs.writeDatabase path entries).1 = .ok ())
    (regular : (fs.writeDatabase path entries).2.regular? path = some content) :
    (fs.writeDatabase path entries).2.readDatabase path = .ok entries := by
  obtain ⟨location, rewrites⟩ := rewrites_writeDatabase written regular
  exact rewrites.readDatabase

end FileSystem

/-- A database in the directory where relative paths start, with a longer text than what will be
written to it. -/
def FileSystem.stale : FileSystem where
  nodes :=
    [(["r"], .directory),
      (["r", "compile_commands.json"], .file (List.replicate 500 0x20 ++ Utf8.encode "[]\n"))]
  here := .standing ["r"]

/-- Among the texts are all characters with a short escape, control characters, and characters of
every length, and the file held more bytes before than it does afterwards. -/
theorem stale_readDatabase_writeDatabase :
    (FileSystem.stale.writeDatabase "compile_commands.json"
        [⟨"\"\\/\x08\x0c\n\r\t", "\x00\x01\x1f\x7f", "é€😀\u2028"⟩]).2.readDatabase
          "compile_commands.json" =
      .ok [⟨"\"\\/\x08\x0c\n\r\t", "\x00\x01\x1f\x7f", "é€😀\u2028"⟩] := by
  have regular : (FileSystem.stale.writeDatabase "compile_commands.json"
      [⟨"\"\\/\x08\x0c\n\r\t", "\x00\x01\x1f\x7f", "é€😀\u2028"⟩]).2.regular?
        "compile_commands.json" = some (Database.render
          [⟨"\"\\/\x08\x0c\n\r\t", "\x00\x01\x1f\x7f", "é€😀\u2028"⟩]) := rfl
  exact FileSystem.readDatabase_writeDatabase rfl regular

end UnityBuild
