import Coursebook.Files.Path
import Coursebook.Text.Quoted

/-!
# Coursebook — faults of file access

Why a file or directory cannot be used, and the words for it.
-/

namespace Coursebook.Files

/-- Why a path cannot be used. -/
inductive FileFault where
  | missing
  | exists_
  | notDirectory
  | isDirectory
  | nameTooLong
  /-- The path has a character with the code zero in it. -/
  | nullCharacter
  deriving DecidableEq, Repr

/-- The number of a fault, where the system has one. -/
def FileFault.number : FileFault → Nat
  | .missing => 2
  | .exists_ => 17
  | .notDirectory => 20
  | .isDirectory => 21
  | .nameTooLong => 36
  | .nullCharacter => 22

/-- The words for a fault. -/
def FileFault.message : FileFault → String
  | .missing => "No such file or directory"
  | .exists_ => "File exists"
  | .notDirectory => "Not a directory"
  | .isDirectory => "Is a directory"
  | .nameTooLong => "File name too long"
  | .nullCharacter => "embedded null byte"

/-- A fault and the path it was met with. -/
structure FileError where
  fault : FileFault
  path : Path
  deriving DecidableEq, Repr

/-- The words for a fault with a path, which is written as `path`. -/
def FileFault.describe (fault : FileFault) (path : String) : String :=
  match fault with
  | .nullCharacter => fault.message
  | fault => s!"[Errno {fault.number}] {fault.message}: {path}"

/-- A path as the thing it is, not as its text alone. -/
def objectText (p : Path) : String := s!"PosixPath({Text.quoted (toString p)})"

/-- Why a file or directory cannot be used, in words. -/
def FileError.message (e : FileError) : String :=
  e.fault.describe (Text.quoted (toString e.path))

end Coursebook.Files
