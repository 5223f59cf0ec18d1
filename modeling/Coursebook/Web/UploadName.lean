import Coursebook.Media.FileName
import Coursebook.Text.AsciiFold

/-!
# Coursebook — names of uploads

A file name that a client has chosen is cut down to one that is safe in any directory: ASCII letters,
digits, `_`, `.` and `-` only, with neither a dot nor a `_` at an end.
-/

namespace Coursebook.Web

open Coursebook.Text

/-- Whether a character is taken off the ends of a name. -/
def isEdge (c : Char) : Bool := c = '.' || c = '_'

/-- The safe form of a file name: folded to ASCII, each slash and run of blanks a `_`, and without
all that is not safe. -/
def safeName (name : String) : String :=
  let folded := (asciiFold name.toList).map fun c => if c = '/' then ' ' else c
  let joined := ['_'].intercalate (words folded)
  .ofList (stripWhile isEdge (joined.filter Media.isSafe))

end Coursebook.Web
