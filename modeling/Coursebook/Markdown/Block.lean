import Coursebook.Markdown.Inline

/-!
# Coursebook — blocks of Markdown

The written forms of the elements that stand on lines of their own: paragraphs, headings, quotes,
lists and tables. Within a heading or a cell, where a line has to stay one, most of them are
written as a piece of it.
-/

namespace Coursebook.Markdown

open Coursebook.Html Coursebook.Text

/-- A stretch of the page such as a section. -/
def sectionText (p : Place) (text : List Char) : List Char :=
  if p.isOneLine then spaced (trim text) else block (trim text)

/-- A paragraph. -/
def paragraphText (p : Place) (text : List Char) : List Char :=
  let t := stripWhile isSpacing text
  if p.isOneLine then spaced t else block t

/-- A heading; there are six levels. -/
def headingText (p : Place) (level : Nat) (text : List Char) : List Char :=
  if p.isOneLine then text
  else
    lineFeeds 2 ++ List.replicate (max 1 (min 6 level)) '#' ++ ' ' :: foldLines (trim text) ++
      lineFeeds 2

/-- A quote, each of its lines marked. -/
def quoteText (p : Place) (text : List Char) : List Char :=
  let t := stripWhile isSpacing text
  if p.isOneLine then spaced t
  else if t = [] then lineFeeds 1
  else '\n' :: leadLines ['>', ' '] ['>'] t ++ lineFeeds 2

/-- A text in a fence. -/
def preformattedText (text : List Char) : List Char :=
  if text = [] then []
  else
    let lead := text.takeWhile fun c => c = ' ' || c = '\n'
    let t := text.drop (dropEndWhile (· = ' ') lead).length
    let t := dropEndWhile (fun c => c = ' ' || c = '\n') t
    "\n\n```\n".toList ++ t ++ "\n```\n\n".toList

/-- A term that is defined. -/
def termText (p : Place) (text : List Char) : List Char :=
  let t := foldLines (trim text)
  if p.isOneLine then spaced t
  else if t = [] then lineFeeds 1
  else lineFeeds 2 ++ t ++ lineFeeds 1

/-- The definition of a term. -/
def definitionText (p : Place) (text : List Char) : List Char :=
  let t := trim text
  if p.isOneLine then spaced t
  else if t = [] then lineFeeds 1
  else ':' :: (hang (List.replicate 4 ' ') t).drop 1 ++ lineFeeds 1

/-! ## Lists -/

/-- The elements that hold list items. -/
def listNames : List String := ["ul", "ol"]

/-- Whether a node is a list. -/
def isList : Node → Bool
  | .element name _ _ => listNames.contains name
  | .text .. => false

/-- A list. -/
def listText (p : Place) (text : List Char) : List Char :=
  if p.isWithin ["li"] then '\n' :: trimEnd text
  else
    lineFeeds 2 ++ text ++
      (match p.nextContent? with
        | some n => if isList n then [] else lineFeeds 1
        | none => [])

/-- The number of elements of a name among some nodes. -/
def countNamed (name : String) (nodes : List Node) : Nat :=
  (nodes.filter fun n => (n.element?.map (·.name)) == some name).length

/-- The number of the first item of a list. -/
def firstNumber (list : Element) : Nat := (decimal? (list.attributeD "start").toList).getD 1

/-- The sign before a list item. -/
def itemSign (p : Place) : List Char :=
  match p.parent? with
  | some list =>
    if list.name = "ol" then (toString (firstNumber list + countNamed "li" p.before)).toList ++ ['.']
    else ['-']
  | none => ['-']

/-- A list item. -/
def itemText (p : Place) (text : List Char) : List Char :=
  match trim text with
  | [] => lineFeeds 1
  | t => hang (itemSign p ++ [' ']) t ++ lineFeeds 1

/-! ## Tables -/

/-- The number of columns that a cell takes. -/
def columnSpan (cell : Element) : Nat :=
  match decimal? (cell.attributeD "colspan").toList with
  | some n => max 1 (min 1000 n)
  | none => 1

/-- A cell, with the lines behind it. -/
def cellText (e : Element) (text : List Char) : List Char :=
  ' ' :: (trim text).map (fun c => if c = '\n' then ' ' else c) ++
    (List.replicate (columnSpan e) [' ', '|']).flatten

/-- A row with the same text in each of its cells. -/
def uniformRow (text : String) (columns : Nat) : List Char :=
  "| ".toList ++ (" | ".toList.intercalate (List.replicate columns text.toList)) ++ " |\n".toList

/-- Whether a row is the head of its table: it has nothing but head cells, or is the only row of
the part for the head. -/
def isHeadRow (p : Place) (row : Element) : Bool :=
  (row.descendantsNamed cellNames).all (·.name == "th") ||
    p.parent?.any fun e => e.name == "thead" && (e.descendantsNamed ["tr"]).length == 1

/-- Whether a first row has no head above it that another part of the table could hold. -/
def lacksHead (p : Place) : Bool :=
  p.parentName != "tbody" ||
    (p.ancestors[1]?).all fun a => (a.element.descendantsNamed ["thead"]).isEmpty

/-- Whether a first row stands first in its table. -/
def opensTable (p : Place) : Bool :=
  p.parentName == "table" ||
    (p.parentName == "tbody" && (p.ancestors.head?.all fun a => isAbsent a.before.head?))

/-- A row. The first one is underlined if it is a head, and gets an empty head above it if its table
has none. -/
def rowText (p : Place) (e : Element) (text : List Char) : List Char :=
  let isFirst := p.before.all fun n => n.element?.isNone
  let columns := ((e.descendantsNamed cellNames).map columnSpan).foldl (· + ·) 0
  let rule := uniformRow "---" columns
  let row := '|' :: text ++ lineFeeds 1
  if isFirst && isHeadRow p e then row ++ rule
  else if isFirst && (lacksHead p || opensTable p) then uniformRow "" columns ++ rule ++ row
  else row

end Coursebook.Markdown
