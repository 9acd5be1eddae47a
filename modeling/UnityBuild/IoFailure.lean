/-!
# Failures of the file system

The reasons for which a path cannot be opened, read or written. Each has one message, which carries
the number that the operating system uses for it, unless the path is refused before the system is
asked.
-/

namespace UnityBuild

inductive IoFailure where
  | notFound
  | notADirectory
  | isADirectory
  | noSpace
  | nameTooLong
  | linkLoop
  | nulInPath
  /-- Any other reason, in its own words. -/
  | other (message : String)
  deriving DecidableEq, Repr

def IoFailure.message : IoFailure → String
  | notFound => "No such file or directory (os error 2)"
  | notADirectory => "Not a directory (os error 20)"
  | isADirectory => "Is a directory (os error 21)"
  | noSpace => "No space left on device (os error 28)"
  | nameTooLong => "File name too long (os error 36)"
  | linkLoop => "Too many levels of symbolic links (os error 40)"
  | nulInPath => "file name contained an unexpected NUL byte"
  | other message => message

/-- A file that was not read: it could not be opened, or what was opened could not be read. -/
inductive ReadFailure where
  | opening (failure : IoFailure)
  | reading (failure : IoFailure)
  deriving DecidableEq, Repr

/-- A file that was not written: it could not be created, or what was created took no text. -/
inductive WriteFailure where
  | creating (failure : IoFailure)
  | writing (failure : IoFailure)
  deriving DecidableEq, Repr

def ReadFailure.reason : ReadFailure → IoFailure
  | opening failure => failure
  | reading failure => failure

def WriteFailure.reason : WriteFailure → IoFailure
  | creating failure => failure
  | writing failure => failure

end UnityBuild
