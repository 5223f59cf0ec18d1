import Coursebook.Html.Page
import Coursebook.Markdown.Numeral
import Coursebook.Media.Link

/-!
# Coursebook — pages of a course

How a page of a course becomes Markdown: its references to static files are pointed at the media
directory, it is cut down to its content, and that is written as Markdown.
-/

namespace Coursebook.Course

open Coursebook.Text

/-- Why a page cannot be written. -/
inductive PageError where
  /-- The page cannot be read. -/
  | markup (e : Html.MarkupError)
  /-- A number in the page is not one. -/
  | number (value : String)
  deriving DecidableEq, Repr

/-- Why a page cannot be written, in words. -/
def PageError.message : PageError → String
  | .markup e => e.message
  | .number value => s!"invalid literal for int() with base 10: {quoted value}"

/-- Reads a page. -/
def readPage (s : List Char) : Except PageError Html.Page := (Html.Page.read s).mapError .markup

/-- The text of a page that has one, as Markdown before it is tidied. -/
def pageMarkdown (html : List Char) : Except PageError (List Char) := do
  let shown ← readPage (← readPage html).content
  match Markdown.badNumberOfPage shown with
  | some value => .error (.number value)
  | none => .ok (Markdown.ofPage shown)

/-- The text of a page as Markdown. -/
def pageText (mediaDir : String) (html : String) : Except PageError String :=
  if (trim html.toList).isEmpty then .ok ""
  else do
    let markdown ← pageMarkdown (Media.rewriteLinks mediaDir.toList html.toList)
    .ok (.ofList (Markdown.tidy markdown))

/-- The written form of a page without text. -/
def noContent : String := "*No content available*"

/-- The written form of a page. -/
def htmlText (mediaDir : String) (html : String) : Except PageError String := do
  match ← pageText mediaDir html with
  | "" => .ok noContent
  | text => .ok text

/-- The written form of the page about the course, under a heading. -/
def aboutText (mediaDir displayName : String) (html : String) : Except PageError String := do
  .ok (s!"## {displayName}\n\n" ++ (← htmlText mediaDir html) ++ "\n\n---\n")

/-- The heading over the page about the course where it has no name. -/
def aboutTitle : String := "About This Course"

/-- The written form of a component of a kind that nothing is known of. -/
def unknownText (kind id : String) : String :=
  s!"## Unsupported Component: {id}\n\n*Unsupported component type: {kind} ({id})*\n\n---\n"

end Coursebook.Course
