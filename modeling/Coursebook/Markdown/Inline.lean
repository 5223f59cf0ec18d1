import Coursebook.Markdown.Place
import Coursebook.Markdown.Text

/-!
# Coursebook — inline Markdown

The written forms of text and of the elements within a line: emphasis, program text, links and
images. Each function gets the place of the element and the text of what it holds.
-/

namespace Coursebook.Markdown

open Coursebook.Html Coursebook.Text

/-- A piece of text. -/
def proseText (p : Place) (s : List Char) : List Char :=
  let s := if p.isWithin ["pre"] then s else foldBlanks s
  let s := if p.isVerbatim then s else escape s
  let s := if p.startsLine then s.dropWhile isSpacing else s
  if p.endsLine then trimEnd s else s

/-- A text between two signs. -/
def emphasis (sign : String) (p : Place) (text : List Char) : List Char :=
  if p.isVerbatim then text else wrap sign.toList sign.toList text

/-- The length of the longest run of backticks at the start of a text or anywhere in it, given that
`run` of them stand before it. -/
def longestTicks (run : Nat) : List Char → Nat
  | [] => run
  | c :: r => if c = '\x60' then longestTicks (run + 1) r else max run (longestTicks 0 r)

/-- Program text: between more backticks than stand in a row in it. -/
def codeText (p : Place) (text : List Char) : List Char :=
  if p.isVerbatim then text
  else
    let t := Chomped.ofText text
    let ticks := longestTicks 0 t.content
    let sign := List.replicate (ticks + 1) '\x60'
    if t.content = [] then []
    else
      t.before ++ sign ++ (if ticks = 0 then t.content else spaced t.content) ++ sign ++ t.after

/-- A text with its escaped underscores as they were. -/
def plainUnderscores : List Char → List Char
  | '\\' :: '_' :: r => '_' :: plainUnderscores r
  | c :: r => c :: plainUnderscores r
  | [] => []

/-- The title of a link or image, with a space before it. -/
def titlePart (title : List Char) : List Char :=
  if title = [] then []
  else " \"".toList ++ title.flatMap (fun c => if c = '"' then ['\\', '"'] else [c]) ++ ['"']

/-- The target of a link or image between its parentheses. -/
def targetPart (url title : List Char) : List Char := '(' :: url ++ titlePart title ++ [')']

/-- A link; one that shows its target is written in short, and one without target as its text. -/
def linkText (p : Place) (e : Element) (text : List Char) : List Char :=
  if p.isVerbatim then text
  else
    let t := Chomped.ofText text
    let url := (e.attributeD "href").toList
    let title := (e.attributeD "title").toList
    if t.content = [] then []
    else if plainUnderscores t.content = url ∧ title = [] then '<' :: url ++ ['>']
    else if url = [] then t.content
    else t.before ++ '[' :: t.content ++ ']' :: targetPart url title ++ t.after

/-- An image; where a line has to stay one, only its description. -/
def imageText (p : Place) (e : Element) : List Char :=
  let description := (e.attributeD "alt").toList
  if p.isOneLine then description
  else '!' :: '[' :: description ++
    ']' :: targetPart (e.attributeD "src").toList (e.attributeD "title").toList

/-- Where the film of a video element is: with it, or else with the first source that has one. -/
def videoSource (e : Element) : List Char :=
  match e.attributeD "src" with
  | "" =>
    let sources := (e.descendantsNamed ["source"]).filterMap fun s =>
      attributeValue s.attributes "src"
    (sources.headD "").toList
  | src => src.toList

/-- A link to a film, shown by its poster if there is one. -/
def videoText (p : Place) (e : Element) (text : List Char) : List Char :=
  if p.isOneLine then text
  else
    let poster := (e.attributeD "poster").toList
    let shown := if poster = [] then text else '!' :: '[' :: text ++ ']' :: targetPart poster []
    match videoSource e with
    | [] => shown
    | src => '[' :: shown ++ ']' :: targetPart src []

end Coursebook.Markdown
