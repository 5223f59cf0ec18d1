/-!
# Coursebook — members of an archive

An archive is a list of members. Only files and directories are ever unpacked; links and special
files are kept apart as members of another kind.
-/

namespace Coursebook.Archive

/-- What a member of an archive is. -/
inductive MemberKind where
  | file (octets : List UInt8)
  | directory
  /-- A link or a special file. -/
  | other
  deriving DecidableEq, Repr

/-- A member of an archive. -/
structure Member where
  name : String
  kind : MemberKind
  deriving DecidableEq, Repr

end Coursebook.Archive
