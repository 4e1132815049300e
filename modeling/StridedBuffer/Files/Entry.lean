/-! # Entries and their failures

A path names a regular file, a directory or nothing. Operations on paths fail for the
reasons an operating system gives, and a failure is told as the operation, the path and
the reason: `open x.ndb: no such file or directory`.
-/

namespace StridedBuffer.Files

/-- Why an operation on a path failed. -/
inductive Errno where
  | noEntry
  | notDirectory
  | isDirectory
  | alreadyExists
  /-- Any other reason, in the system's words. -/
  | other (text : String)
  deriving DecidableEq, Repr

/-- The system's words for a reason. -/
def Errno.text : Errno → String
  | .noEntry => "no such file or directory"
  | .notDirectory => "not a directory"
  | .isDirectory => "is a directory"
  | .alreadyExists => "file exists"
  | .other t => t

/-- A failed operation on a path. -/
structure PathFailure where
  operation : String
  path : String
  errno : Errno
  deriving DecidableEq, Repr

/-- The text of a failed operation: the operation, the path and the reason. -/
def PathFailure.message (f : PathFailure) : String :=
  f.operation ++ " " ++ f.path ++ ": " ++ f.errno.text

/-- What a path names when it names something. -/
inductive EntryKind where
  | file
  | directory
  deriving DecidableEq, Repr

/-- What opening a path for reading gives: the bytes of a file, or a directory, which
opens but cannot be read. -/
inductive Contents where
  | bytes (data : ByteArray)
  | directory

end StridedBuffer.Files
