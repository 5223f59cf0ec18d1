import Coursebook.Archive.Tape
import Coursebook.Files.Content

/-!
# Coursebook — opening archives

The members of the archive that a file holds.
-/

namespace Coursebook.Archive

open Coursebook.Files

/-- The members that octets hold. -/
def ofOctets (bytes : List UInt8) : Except FormatFault (List Member) := tapeMembers (gunzip bytes)

/-- The members of an archive. -/
def members : Content → Except FormatFault (List Member)
  | .octets bytes => ofOctets bytes
  | .archive members => .ok members
  | .zip _ => .error .notCompressed

end Coursebook.Archive
