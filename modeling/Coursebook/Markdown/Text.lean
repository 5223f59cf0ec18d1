import Coursebook.Text.Blank

/-!
# Coursebook — pieces of Markdown

Operations on the text of a Markdown document while it is put together.

* `foldBlanks` writes each stretch of blanks as one: a line feed if there is a line end in it, else
  a space.
* `joinPieces` puts pieces one behind the other. Where two of them meet in line feeds, the longer of
  the two runs stays, up to one empty line.
* `tidy` leaves no more than one empty line between two lines, and no blanks at either end.
-/

namespace Coursebook.Markdown

open Coursebook.Text

/-- The blanks that stand for one another in running text. -/
def isSpacing (c : Char) : Bool := c = ' ' || c = '\t' || c = '\r' || c = '\n'

/-- Whether a character ends a line. -/
def isLineEnd (c : Char) : Bool := c = '\r' || c = '\n'

/-- A text with each stretch of blanks written as one blank. -/
def foldBlanks : List Char → List Char
  | [] => []
  | c :: r =>
    if isSpacing c then
      match foldBlanks r with
      | ' ' :: s => (if isLineEnd c then '\n' else ' ') :: s
      | '\n' :: s => '\n' :: s
      | s => (if isLineEnd c then '\n' else ' ') :: s
    else c :: foldBlanks r

/-- A text with each stretch of blanks written as a space. -/
def foldLines (s : List Char) : List Char :=
  (foldBlanks s).map fun c => if c = '\n' then ' ' else c

/-- A text with the signs of emphasis made plain characters. -/
def escape (s : List Char) : List Char :=
  s.flatMap fun c => if c = '*' ∨ c = '_' then ['\\', c] else [c]

/-- Some line feeds. -/
def lineFeeds (n : Nat) : List Char := List.replicate n '\n'

/-- A piece of text: line feeds, what stands between them, and line feeds. -/
structure Framed where
  before : Nat
  content : List Char
  after : Nat

/-- Takes the line feeds off a text; one of nothing else has them all before it. -/
def Framed.ofText (s : List Char) : Framed :=
  let r := s.dropWhile (· = '\n')
  let content := dropEndWhile (· = '\n') r
  ⟨s.length - r.length, content, r.length - content.length⟩

/-- The line feeds where two pieces meet. -/
def meeting (after before : Nat) : Nat :=
  if after = 0 ∨ before = 0 then after + before else min 2 (max after before)

/-- Pieces one behind the other, after a text that ends in some line feeds. -/
def joinAfter (open_ : Nat) : List (List Char) → List Char
  | [] => lineFeeds open_
  | s :: r =>
    let piece := Framed.ofText s
    lineFeeds (meeting open_ piece.before) ++ piece.content ++ joinAfter piece.after r

/-- Pieces one behind the other. -/
def joinPieces (pieces : List (List Char)) : List Char :=
  joinAfter 0 (pieces.filter fun s => !s.isEmpty)

/-- The text of an inline element: whether a space stands before and behind it, and the text without
blanks around it. -/
structure Chomped where
  before : List Char
  content : List Char
  after : List Char

/-- A single space where there is one. -/
def spaceIf (c : Option Char) : List Char := if c = some ' ' then [' '] else []

/-- Moves the blanks around the text of an inline element out of it, as single spaces. -/
def Chomped.ofText (s : List Char) : Chomped := ⟨spaceIf s.head?, trim s, spaceIf s.getLast?⟩

/-- Puts a sign on either side of the text of an inline element; an empty text gives nothing. -/
def wrap (opening closing : List Char) (s : List Char) : List Char :=
  let t := Chomped.ofText s
  if t.content = [] then [] else t.before ++ opening ++ t.content ++ closing ++ t.after

/-- Writes the lines of a text behind `lead`, empty ones behind `leadEmpty`. -/
def leadLines (lead leadEmpty : List Char) (s : List Char) : List Char :=
  ['\n'].intercalate ((lines s).map fun l => if l = [] then leadEmpty else lead ++ l)

/-- Writes a text behind `sign`, its further lines as far to the right. -/
def hang (sign : List Char) (s : List Char) : List Char :=
  sign ++ (leadLines (List.replicate sign.length ' ') [] s).drop sign.length

/-- Puts empty lines around a text, if there is any. -/
def block (s : List Char) : List Char :=
  if s = [] then [] else lineFeeds 2 ++ s ++ lineFeeds 2

/-- Puts a space on either side of a text. -/
def spaced (s : List Char) : List Char := ' ' :: s ++ [' ']

/-- Whether a line holds nothing but spaces and tabs. -/
def isEmptyLine (l : List Char) : Bool := l.all fun c => c = ' ' || c = '\t'

/-- The lines after the first, with each stretch of two or more empty ones written as one; the last
line stays. -/
def tidyLines : List (List Char) → List (List Char)
  | [] => []
  | [last] => [last]
  | l :: m :: r =>
    if isEmptyLine l && isEmptyLine m && !r.isEmpty then [] :: (tidyLines (m :: r)).tail
    else l :: tidyLines (m :: r)

/-- A text with no more than one empty line between two lines, and no blanks at either end. -/
def tidy (s : List Char) : List Char :=
  match lines s with
  | [] => []
  | first :: rest => trim (['\n'].intercalate (first :: tidyLines rest))

end Coursebook.Markdown
