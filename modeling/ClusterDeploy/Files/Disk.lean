import ClusterDeploy.Text.Utf8
/-!
# Disks

What a tree of files cannot tell: a disk that is full or broken, or that belongs to somebody else,
may refuse any step of an operation that the tree would allow.
-/
namespace ClusterDeploy

inductive IoFault where
  | notFound
  | isADirectory
  | notADirectory
  | alreadyExists
  | invalidData
  | invalidInput
  | permissionDenied
  | storageFull
  deriving DecidableEq, Repr

def IoFault.message : IoFault → String
  | .notFound => "No such file or directory (os error 2)"
  | .isADirectory => "Is a directory (os error 21)"
  | .notADirectory => "Not a directory (os error 20)"
  | .alreadyExists => "File exists (os error 17)"
  | .invalidData => "stream did not contain valid UTF-8"
  | .invalidInput => "nul byte found in provided data"
  | .permissionDenied => "Permission denied (os error 13)"
  | .storageFull => "No space left on device (os error 28)"

/-- The names from the root down. -/
abbrev Place := List String

/-- What a disk makes of the steps of one operation. As long as nothing else is said it refuses
none. Whether something stands at a path can always be told. -/
structure Disk where
  /-- Creating a folder at a place. -/
  folder : Place → Option IoFault := fun _ => none
  /-- Finding out where a folder stands. -/
  resolve : Option IoFault := none
  /-- Opening a file to be written. -/
  opening : Option IoFault := none
  /-- Taking the lock of a file that is open. -/
  locking : Option IoFault := none
  read : Option IoFault := none
  temporary : Option IoFault := none
  /-- Writing, once that many bytes are written. -/
  write : Option (Nat × IoFault) := none
  rename : Option IoFault := none
  /-- Removing a temporary file again. -/
  removal : Option IoFault := none

end ClusterDeploy
