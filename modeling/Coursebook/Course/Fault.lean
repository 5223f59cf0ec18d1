import Coursebook.Course.Component
import Coursebook.Files.Fault
import Coursebook.Text.Utf8
import Coursebook.Xml.Fault

/-!
# Coursebook — faults of components

Why a component cannot be read from its files.
-/

namespace Coursebook.Course

open Coursebook.Files

/-- The files that a component is kept in. -/
inductive ComponentFile where
  | htmlMetadata
  | htmlBody
  | problem
  | video
  | aboutDirectory
  | aboutPage
  deriving DecidableEq, Repr

/-- The words for a file that is not there, before its path. -/
def ComponentFile.missingText : ComponentFile → String
  | .htmlMetadata => "HTML component XML not found"
  | .htmlBody => "HTML component content not found"
  | .problem => "Problem file not found"
  | .video => "Video file not found"
  | .aboutDirectory => "About directory not found"
  | .aboutPage => "No HTML files found in about directory"

/-- Why a component cannot be read. -/
inductive ComponentError where
  /-- A file is not there. -/
  | missing (file : ComponentFile) (path : Path)
  /-- A file is not well-formed XML. -/
  | malformed (id : String) (path : Path) (fault : Xml.Fault) (position : Xml.Position)
  /-- A file starts with an element of another kind. -/
  | wrongRoot (e : WrongRoot)
  deriving DecidableEq, Repr

/-- The words for a document that is not well formed. -/
def malformedText (path : String) (fault : Xml.Fault) (position : Xml.Position) : String :=
  s!"Malformed XML in {path}: {(Xml.XmlError.malformed fault position).message}"

/-- Why a component cannot be read, in words. -/
def ComponentError.message : ComponentError → String
  | .missing file path => s!"{file.missingText}: {path}"
  | .malformed id path fault position =>
    s!"Invalid XML for component {id}: {malformedText (toString path) fault position}"
  | .wrongRoot e => e.message

end Coursebook.Course
