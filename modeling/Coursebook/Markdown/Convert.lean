import Coursebook.Markdown.Block

/-!
# Coursebook — pages as Markdown

Each element of a page is of a kind that says how it is written; elements of no kind of their own
are written as what they hold. A page is written from the inside out, then tidied.
-/

namespace Coursebook.Markdown

open Coursebook.Html Coursebook.Text

/-- The kinds of element that have a written form of their own. -/
inductive ElementKind where
  | link
  | strong
  | emphasised
  | deleted
  | raised
  | quotation
  | code
  | lineBreak
  | image
  | video
  | heading (level : Nat)
  | paragraph
  | division
  | quote
  | preformatted
  | rule
  | list
  | item
  | term
  | definition
  | table
  | row
  | cell
  | caption
  | figureCaption
  | hidden
  | other
  deriving DecidableEq, Repr

/-- The kind of the elements with a name. -/
def ElementKind.ofName : String → ElementKind
  | "a" => .link
  | "b" | "strong" => .strong
  | "i" | "em" => .emphasised
  | "del" | "s" => .deleted
  | "sub" | "sup" => .raised
  | "q" => .quotation
  | "code" | "kbd" | "samp" => .code
  | "br" => .lineBreak
  | "img" => .image
  | "video" => .video
  | "p" => .paragraph
  | "div" | "article" | "section" | "dl" => .division
  | "blockquote" => .quote
  | "pre" => .preformatted
  | "hr" => .rule
  | "ul" | "ol" | "list" => .list
  | "li" => .item
  | "dt" => .term
  | "dd" => .definition
  | "table" => .table
  | "tr" => .row
  | "td" | "th" => .cell
  | "caption" => .caption
  | "figcaption" => .figureCaption
  | "script" | "style" => .hidden
  | name =>
    match headingLevel? name with
    | some level => .heading level
    | none => .other

/-- The written form of an element that holds a text. -/
def elementText (p : Place) (e : Element) (text : List Char) : List Char :=
  match ElementKind.ofName e.name with
  | .link => linkText p e text
  | .strong => emphasis "**" p text
  | .emphasised => emphasis "*" p text
  | .deleted => emphasis "~~" p text
  | .raised => emphasis "" p text
  | .quotation => '"' :: text ++ ['"']
  | .code => codeText p text
  | .lineBreak => if p.isOneLine then [' '] else [' ', ' ', '\n']
  | .image => imageText p e
  | .video => videoText p e text
  | .heading level => headingText p level text
  | .paragraph => paragraphText p text
  | .division => sectionText p text
  | .quote => quoteText p text
  | .preformatted => preformattedText text
  | .rule => "\n\n---\n\n".toList
  | .list => listText p text
  | .item => itemText p text
  | .term => termText p text
  | .definition => definitionText p text
  | .table => lineFeeds 2 ++ trim text ++ lineFeeds 2
  | .row => rowText p e text
  | .cell => cellText e text
  | .caption => trim text ++ lineFeeds 2
  | .figureCaption => lineFeeds 2 ++ trim text ++ lineFeeds 2
  | .hidden => []
  | .other => text

/-- Whether line feeds are kept as they are where the children of an element meet. -/
def keepsLines (p : Place) (name : String) : Bool := name == "pre" || p.isWithin ["pre"]

mutual
/-- The written form of a node. -/
def nodeText (p : Place) : Node → List Char
  | .text _ s => proseText p s
  | .element name attributes children =>
    let e : Element := ⟨name, attributes, children⟩
    let pieces := childTexts (p.inside e) [] children
    elementText p e (if keepsLines p name then pieces.flatten else joinPieces pieces)

/-- The written forms of the nodes of an element, from one of them on; `before` holds those before
it, nearest first. -/
def childTexts (ancestors : List Ancestor) (before : List Node) : List Node → List (List Char)
  | [] => []
  | n :: r =>
    let p : Place := ⟨ancestors, before, r⟩
    if p.ignores n then childTexts ancestors (n :: before) r
    else nodeText p n :: childTexts ancestors (n :: before) r
end

/-- The page as the element around everything in it. -/
def pageElement (page : Page) : Element := ⟨"[document]", [], page⟩

/-- A page as Markdown. -/
def ofPage (page : Page) : List Char :=
  let pieces := childTexts [⟨pageElement page, [], []⟩] [] page
  stripWhile (· = '\n') (joinPieces pieces)

end Coursebook.Markdown
