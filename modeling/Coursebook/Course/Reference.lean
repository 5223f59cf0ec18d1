import Coursebook.Text.LowerCase
import Coursebook.Xml.Element

/-!
# Coursebook — references to components

A vertical refers to its components by elements named for their kind. `collect` lists the
references kind by kind, in the order in which the kinds are given, and within a kind in document
order.
-/

namespace Coursebook.Course

open Coursebook.Xml

/-- A reference to a component of a course. -/
structure Reference where
  /-- The kind of component, as the scan for it was asked. -/
  kind : String
  /-- The stem of the names of its files. -/
  id : String
  /-- The name to show, if the reference gives one. -/
  displayName : Option String := none
  deriving DecidableEq, Repr

/-- The kinds of component that every course may hold, in scan order. -/
def knownKinds : List String := ["html", "problem", "video", "about"]

/-- The reference of a kind that an element makes. -/
def Reference.ofElement (kind : String) (e : Element) : Reference where
  kind := kind
  id := (e.firstFilled? ["url_name", "url", "filename"]).getD "unknown"
  displayName := e.attribute? "display_name"

/-- The references of some kinds directly below an element. -/
def collect (kinds : List String) (e : Element) : List Reference :=
  kinds.flatMap fun kind =>
    (e.childrenAt (Text.lower kind)).map (Reference.ofElement kind)

end Coursebook.Course
