import Coursebook.Course.Load
import Coursebook.Conversion.Config

/-!
# Coursebook — the kinds of component that are known

A registry says for each kind of component how it is loaded and how it is written. Kinds differ only
in more than the case of their letters, and are kept in the order in which they were first
registered.
-/

namespace Coursebook.Course

open Coursebook.Files

/-- What can be done with the components of a kind. -/
structure Handler where
  /-- Reads a component from the files of its course. -/
  load : Disk → Path → Reference → Load Component
  /-- Writes a component. -/
  render : Component → Load String

/-- The kinds of component that are known, in lower case. -/
structure Registry where
  handlers : List (String × Handler) := []

namespace Registry

/-- The kinds in the order of their registration. -/
def kinds (r : Registry) : List String := r.handlers.map (·.1)

/-- The handler for a kind. -/
def get? (r : Registry) (kind : String) : Option Handler := r.handlers.lookup (Text.lower kind)

/-- Puts a handler at the place of a kind, behind all others if the kind is new. -/
def insertAt (kind : String) (h : Handler) : List (String × Handler) → List (String × Handler)
  | [] => [(kind, h)]
  | (k, g) :: r => if k = kind then (kind, h) :: r else (k, g) :: insertAt kind h r

/-- Makes a kind known, or known in another way. -/
def register (r : Registry) (kind : String) (h : Handler) : Registry :=
  ⟨insertAt (Text.lower kind) h r.handlers⟩

/-- Loads a component; one of a kind that is not known is taken for what it is. -/
def load (r : Registry) (d : Disk) (root : Path) (ref : Reference) : Load Component :=
  match r.get? ref.kind with
  | some h => h.load d root ref
  | none => .ok (.unknown ref.kind ref.id)

/-- Writes a component. -/
def render (r : Registry) (c : Component) : Load String :=
  match c with
  | .unknown kind id => .ok (unknownText kind id)
  | c =>
    match r.get? c.kind with
    | some h => h.render c
    | none => .ok (unknownText c.kind "unknown")

/-- The registry of the kinds that every course may hold, in scan order. -/
def standard (config : Config) : Registry :=
  let render (c : Component) : Load String := (c.render config.mediaDir).mapError .page
  ⟨[("html", ⟨loadHtml, render⟩), ("problem", ⟨loadProblem, render⟩), ("video", ⟨loadVideo, render⟩),
    ("about", ⟨loadAbout, render⟩)]⟩

end Registry

end Coursebook.Course
