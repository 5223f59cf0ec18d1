import Coursebook.Archive.Fault
import Coursebook.Course.Fault

/-!
# Coursebook — failures

Everything that can end a conversion, and the words for it. A failure that concerns a single
component only is a leaf failure: it does not end the conversion of its course.
-/

namespace Coursebook

open Files

/-- Why a conversion ends. -/
inductive Failure where
  /-- A file or directory cannot be used. -/
  | file (e : FileError)
  /-- There is no `course.xml` at its path. -/
  | noCourse (path : Path)
  /-- A directory holds no `course.xml`. -/
  | noCourseIn (directory : Path)
  /-- No course directory was given. -/
  | noRoot
  /-- A document cannot be read. -/
  | xml (path : Path) (e : Xml.XmlError)
  /-- A page is not UTF-8. -/
  | text (e : Text.Utf8Error)
  /-- A component cannot be read. -/
  | component (e : Course.ComponentError)
  /-- A page cannot be written. -/
  | page (e : Course.PageError)
  /-- An archive is of no use. -/
  | archive (e : Archive.ArchiveError)
  /-- A compressed file ends too early. -/
  | cutShort
  deriving DecidableEq, Repr

/-- Why a conversion ends, in words. -/
def Failure.message : Failure → String
  | .file e => e.message
  | .noCourse path => s!"course.xml not found at {path}"
  | .noCourseIn directory => s!"course.xml not found under {directory}"
  | .noRoot => "Course root directory is required"
  | .xml path (.malformed fault position) => Course.malformedText (toString path) fault position
  | .xml _ e => e.message
  | .text e => e.message
  | .component e => e.message
  | .page e => e.message
  | .archive e => e.message
  | .cutShort => "Compressed file ended before the end-of-stream marker was reached"

/-- Whether a failure concerns a single component only. -/
def Failure.isLeaf : Failure → Bool
  | .file e => e.fault != .nullCharacter
  | .noCourse _ | .noCourseIn _ | .text _ | .component _ => true
  | .noRoot | .xml .. | .page _ | .archive _ | .cutShort => false

end Coursebook
