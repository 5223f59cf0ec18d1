import Coursebook.Html.Printer

/-!
# Coursebook — the content of a page

What of a page is shown: scripts and style sheets are left out, and where there is a body, only
what it holds counts.
-/

namespace Coursebook.Html

/-- A node of a body as text of a page; pieces of text stand for themselves. -/
def bodyPart : Node → List Char
  | .text _ s => s
  | n => n.render

/-- The content of a page. -/
def Page.content (page : Page) : List Char :=
  let shown := withoutAll verbatimElements page
  match (elementsOf shown).find? (·.name == "body") with
  | some body => body.children.flatMap bodyPart
  | none => renderAll shown

end Coursebook.Html
