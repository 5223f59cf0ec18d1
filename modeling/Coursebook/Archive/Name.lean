import Coursebook.Files.Path
import Coursebook.Text.Blank

/-!
# Coursebook — names of course archives

The export of a course is a file whose name ends in `.tar.gz`; the rest of the name, without blanks
around it, is that of the course.
-/

namespace Coursebook.Archive

/-- The end of the name of a course archive. -/
def suffix : List Char := ".tar.gz".toList

/-- Whether a file name is that of a course archive. -/
def hasSuffix (name : String) : Bool := suffix.isSuffixOf name.toList

/-- A file name without the end of an archive's. -/
def dropSuffix (name : String) : String :=
  if hasSuffix name then .ofList (name.toList.take (name.toList.length - suffix.length)) else name

/-- The name of the course in an archive. -/
def courseName (archive : Files.Path) : String := (dropSuffix archive.name).trimBlanks

end Coursebook.Archive
