import UnityBuild.Options
import UnityBuild.Path.Basic

/-!
# Configurations

A configuration names the database to read, the indexing root, and the database to write. What the
options leave open has a default: the database in the current directory, the current directory
itself, and the database in the indexing root.
-/

namespace UnityBuild

structure Config where
  input : String
  root : String
  output : String
  deriving DecidableEq, Repr

namespace Config

def databaseName : String := "compile_commands.json"

def currentRoot : String := "."

def of (input root : String) (output : Option String) : Config :=
  ⟨input, root, output.getD (Path.join root databaseName)⟩

def standard : Config := of databaseName currentRoot none

def ofOptions (options : Options) : Config :=
  of (options.input.getD databaseName) (options.root.getD currentRoot) options.output

/-- Two configurations are alike when their paths spell the same. -/
def alike (left right : Config) : Bool :=
  Path.alike left.input right.input && Path.alike left.root right.root
    && Path.alike left.output right.output

@[simp] theorem ofOptions_none :
    ofOptions ⟨none, none, none, false⟩ = standard := rfl

end Config

end UnityBuild
