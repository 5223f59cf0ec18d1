import Coursebook.Html.Node
import Coursebook.Text.Digit

/-!
# Coursebook — places in a page

What stands around a node of a page: the elements it is in, and its neighbours. The way in which a
node is written depends on them.
-/

namespace Coursebook.Markdown

open Coursebook.Html Coursebook.Text

/-- An element around a node, and the neighbours of the element, nearest ones first. -/
structure Ancestor where
  element : Element
  before : List Node
  after : List Node

/-- Where a node stands. -/
structure Place where
  /-- The elements around it, innermost first; the last one is the page. -/
  ancestors : List Ancestor
  /-- The nodes before it in the element around it, nearest first. -/
  before : List Node
  /-- The nodes after it in the element around it, nearest first. -/
  after : List Node

/-- The digits of a heading's name. -/
def headingDigits : List Char → List Char
  | 'h' :: r => r.takeWhile fun c => (decimalDigit? c).isSome
  | _ => []

/-- The level of a heading with a name. -/
def headingLevel? (name : String) : Option Nat := decimal? (headingDigits name.toList)

/-- The cells of a table. -/
def cellNames : List String := ["td", "th"]

/-- The elements besides headings that start and end on a line of their own. -/
def blockNames : List String :=
  ["p", "blockquote", "article", "div", "section", "ol", "ul", "li", "dl", "dt", "dd", "table",
    "thead", "tbody", "tfoot", "tr", "td", "th"]

/-- Whether blanks at the ends of an element's content count for nothing. -/
def trimsInside (name : String) : Bool := (headingLevel? name).isSome || blockNames.contains name

/-- Whether blanks before and after an element count for nothing. -/
def trimsOutside (name : String) : Bool := trimsInside name || name == "pre"

/-- Whether a node is an element whose neighbours lose their blanks. -/
def isBlock : Node → Bool
  | .element name _ _ => trimsOutside name
  | .text .. => false

/-- Whether there is no node; a piece of text without a character counts for none. -/
def isAbsent : Option Node → Bool
  | none | some (.text _ []) => true
  | _ => false

/-- Whether a node matters for the layout around it: every element and every visible text. -/
def isContent : Node → Bool
  | .element .. => true
  | .text .comment _ | .text .doctype _ => false
  | .text _ s => !(trim s).isEmpty

namespace Place

/-- The place of the first node in an element that has a place of its own. -/
def inside (p : Place) (e : Element) : List Ancestor := ⟨e, p.before, p.after⟩ :: p.ancestors

/-- Whether a node stands in an element with one of the names. -/
def isWithin (p : Place) (names : List String) : Bool :=
  p.ancestors.any fun a => names.contains a.element.name

/-- Whether a node has to stay on one line, as in a heading or a cell. -/
def isOneLine (p : Place) : Bool :=
  p.ancestors.any fun a =>
    (headingLevel? a.element.name).isSome || cellNames.contains a.element.name

/-- Whether the text of a node is program text, which has no emphasis or links. -/
def isVerbatim (p : Place) : Bool := p.isWithin ["pre", "code", "kbd", "samp"]

/-- The element around a node. -/
def parent? (p : Place) : Option Element := p.ancestors.head?.map (·.element)

/-- The name of the element around a node. -/
def parentName (p : Place) : String := (p.parent?.map (·.name)).getD ""

/-- Whether a node stands first in its element, or behind a block. -/
def startsLine (p : Place) : Bool :=
  p.before.head?.any isBlock || (trimsInside p.parentName && isAbsent p.before.head?)

/-- Whether a node stands last in its element, or before a block. -/
def endsLine (p : Place) : Bool :=
  p.after.head?.any isBlock || (trimsInside p.parentName && isAbsent p.after.head?)

/-- Whether a node is passed over: comments, and blanks at the edges of a block. -/
def ignores (p : Place) : Node → Bool
  | .element .. => false
  | .text .comment _ | .text .doctype _ => true
  | .text _ s => (trim s).isEmpty && (p.startsLine || p.endsLine)

/-- The first node after a node that matters for the layout. -/
def nextContent? (p : Place) : Option Node := p.after.find? isContent

end Place

end Coursebook.Markdown
