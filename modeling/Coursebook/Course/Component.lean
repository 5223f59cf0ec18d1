import Coursebook.Course.Page
import Coursebook.Course.Reference
import Coursebook.Course.Video
import Coursebook.Quiz.Problem

/-!
# Coursebook — components

A component as it is read from its files, and its written form. The name to show is the one in the
files, else the one the reference gives, else the id.
-/

namespace Coursebook.Course

open Coursebook.Xml

/-- A component of a course. -/
inductive Component where
  | html (displayName body : String)
  | problem (displayName : String) (kind : Quiz.Kind) (element : Element)
  | video (displayName : String) (kind : VideoKind) (element : Element)
  | about (displayName body : String)
  /-- A component of a kind that nothing is known of. -/
  | unknown (kind id : String)

namespace Component

/-- The kind of a component. -/
def kind : Component → String
  | html .. => "html"
  | problem .. => "problem"
  | video .. => "video"
  | about .. => "about"
  | unknown kind _ => kind

end Component

/-- An element that is not the one a component has to start with. -/
structure WrongRoot where
  /-- The name of the element that was expected. -/
  expected : String
  id : String
  /-- The name of the element that is there. -/
  found : String
  deriving DecidableEq, Repr

/-- What is wrong, in words. -/
def WrongRoot.message (e : WrongRoot) : String :=
  s!"Invalid {e.expected} XML structure: {e.id} (root is <{e.found}>)"

/-- The text, if it is not empty. -/
def filled? (s : Option String) : Option String := s.filter (· ≠ "")

/-- The name to show for a component with some element. -/
def shownName (e : Element) (ref : Reference) : String :=
  ((e.filled? "display_name") <|> filled? ref.displayName).getD ref.id

/-- A page, from the element that describes it and its text. -/
def Component.ofHtml (metadata : Element) (body : String) (ref : Reference) : Component :=
  .html (shownName metadata ref) body

/-- A problem, from its element. -/
def Component.ofProblem (e : Element) (ref : Reference) : Except WrongRoot Component :=
  if e.name = "problem" then .ok (.problem (shownName e ref) (Quiz.Kind.ofProblem e) e)
  else .error ⟨"problem", ref.id, e.name⟩

/-- A video, from its element. -/
def Component.ofVideo (e : Element) (ref : Reference) : Except WrongRoot Component :=
  if e.name = "video" then .ok (.video (shownName e ref) (VideoKind.ofElement e) e)
  else .error ⟨"video", ref.id, e.name⟩

/-- The page about the course. -/
def Component.ofAbout (body : String) (displayName : Option String) : Component :=
  .about ((filled? displayName).getD aboutTitle) body

/-- The written form of a component, with its pictures in a media directory. -/
def Component.render (mediaDir : String) : Component → Except PageError String
  | .html _ body => htmlText mediaDir body
  | .problem displayName kind e => .ok (Quiz.problemText kind e displayName)
  | .video displayName kind e => .ok (videoText kind e displayName)
  | .about displayName body => aboutText mediaDir displayName body
  | .unknown kind id => .ok (unknownText kind id)

end Coursebook.Course
