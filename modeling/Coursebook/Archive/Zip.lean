import Coursebook.Files.Disk

/-!
# Coursebook — zip archives of a directory

All that stands below a directory, as the entries of a zip archive. The name of an entry leads there
from the directory, and that of a directory ends in a slash.
-/

namespace Coursebook.Archive

open Coursebook.Files

/-- The entry for what stands where names lead. -/
def zipEntry (names : List String) : Entry → ZipEntry
  | .directory => ⟨"/".intercalate names ++ "/", none⟩
  | .file content => ⟨"/".intercalate names, some content.bytes⟩

/-- The entries for all that stands below a directory, in the order of their names. -/
def zipEntries (d : Disk) (directory : Path) : List ZipEntry :=
  let sorted := (d.listAll directory).mergeSort fun a b => namesLe a.1 b.1
  sorted.map fun (names, e) => zipEntry names e

end Coursebook.Archive
