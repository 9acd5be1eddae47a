import UnityBuild.IoFailure
import UnityBuild.Json.Fault

/-!
# Failures

A failure has a cause and a chain of contexts, the outermost first. A context tells what was being
done when what comes after it went wrong. Causes and contexts are data; their texts are given in one
place.
-/

namespace UnityBuild

/-- What was being done when the rest of a failure came up. A database is named by the path that was
given for it, and a source by the path that it was resolved to. -/
inductive Context where
  | openDatabase (path : String)
  | parseDatabase (path : String)
  | createDatabase (path : String)
  | currentDirectory
  | readSource (path : String)
  | expand (file includer : String)
  deriving DecidableEq, Repr

def Context.message : Context → String
  | openDatabase path => "Failed to open compilation database '" ++ path ++ "'"
  | parseDatabase path => "Failed to parse compilation database '" ++ path ++ "'"
  | createDatabase path => "Failed to create compilation database '" ++ path ++ "'"
  | currentDirectory => "Failed to get the current working directory"
  | readSource path => "Failed to read unified source '" ++ path ++ "'"
  | expand file includer => "Failed to expand '" ++ file ++ "' included from '" ++ includer ++ "'"

/-- What went wrong in the end. It is the innermost part of a failure, and the contexts around it
only tell where it was met. -/
inductive Cause where
  /-- The file system refused. -/
  | io (failure : IoFailure)
  /-- The text of a database could not be taken by the file while it was produced. -/
  | unwritten (failure : IoFailure)
  /-- A text is no database. -/
  | malformed (complaint : Json.Complaint)
  | noRoot (root : String)
  | cycle (includer included : String)
  /-- A self-test did not find what it expected. -/
  | unexpected (finding : String)
  | failedTests (failed total : Nat)
  deriving DecidableEq, Repr

def Cause.message : Cause → String
  | io failure => failure.message
  | unwritten failure => failure.message
  | malformed complaint => complaint.message
  | noRoot root => "Indexing root '" ++ root ++ "' doesn't exist or isn't a directory"
  | cycle includer included =>
    "Include cycle: '" ++ includer ++ "' includes '" ++ included
      ++ "', which is already being expanded"
  | unexpected finding => finding
  | failedTests failed total =>
    toString failed ++ " out of " ++ toString total ++ " self-test(s) failed"

structure Failure where
  contexts : List Context
  cause : Cause
  deriving DecidableEq, Repr

namespace Failure

def of (cause : Cause) : Failure := ⟨[], cause⟩

def within (failure : Failure) (context : Context) : Failure :=
  ⟨context :: failure.contexts, failure.cause⟩

def messages (failure : Failure) : List String :=
  failure.contexts.map Context.message ++ [failure.cause.message]

def message (failure : Failure) : String :=
  ": ".intercalate failure.messages

/-- Indents every line but the first. -/
def indented (depth : Nat) (text : String) : String :=
  String.ofList (text.toList.flatMap fun letter =>
    if letter = '\n' then '\n' :: List.replicate depth ' ' else [letter])

/-- A message of a numbered list, with the number in five columns. -/
def numbered (number : Nat) (text : String) : String :=
  let digits := Nat.toDigits 10 number
  String.ofList (List.replicate (5 - digits.length) ' ' ++ digits) ++ ": " ++ indented 7 text

/-- The messages as a program prints them when it gives up: the outermost one, then a list of what
caused it, numbered if it has more than one member. -/
def report (failure : Failure) : String :=
  match failure.messages with
  | [] => ""
  | [only] => "Error: " ++ only ++ "\n"
  | [first, cause] => "Error: " ++ first ++ "\n\nCaused by:\n    " ++ indented 4 cause ++ "\n"
  | first :: causes =>
    "Error: " ++ first ++ "\n\nCaused by:"
      ++ String.join (causes.zipIdx.map fun cause => "\n" ++ numbered cause.2 cause.1) ++ "\n"

end Failure

end UnityBuild
