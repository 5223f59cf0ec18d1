/-!
# Coursebook — blank characters and words

Which characters count as blank, trimming a text of them, and cutting a text into its words.

* `isBlank` is the Unicode set of white space together with the four ASCII information separators;
  zero-width characters are not in it.
* `words` gives the maximal runs of characters that are not blank, `collapse` writes them with one
  space between neighbours.
-/

namespace Coursebook.Text

/-- White space: the ASCII controls from tab to carriage return, the information separators, the
space, and the spaces and separators of Unicode. -/
def isBlank (c : Char) : Bool :=
  let n := c.toNat
  (0x09 ≤ n && n ≤ 0x0d) || (0x1c ≤ n && n ≤ 0x20) || n == 0x85 || n == 0xa0 || n == 0x1680 ||
    (0x2000 ≤ n && n ≤ 0x200a) || n == 0x2028 || n == 0x2029 || n == 0x202f || n == 0x205f ||
    n == 0x3000

/-- The text without what satisfies `p` at its end. -/
def dropEndWhile (p : Char → Bool) (s : List Char) : List Char :=
  s.foldr (fun c r => if r.isEmpty && p c then [] else c :: r) []

/-- The text without what satisfies `p` at either end. -/
def stripWhile (p : Char → Bool) (s : List Char) : List Char :=
  dropEndWhile p (s.dropWhile p)

/-- The text without blanks at its end. -/
def trimEnd (s : List Char) : List Char := dropEndWhile isBlank s

/-- The text without blanks at either end. -/
def trim (s : List Char) : List Char := stripWhile isBlank s

/-- A finished word joins the words after it; an empty one is no word. -/
def closeWord (w : List Char) (ws : List (List Char)) : List (List Char) :=
  if w.isEmpty then ws else w :: ws

/-- The maximal runs of characters that are not blank, in order. -/
def words (s : List Char) : List (List Char) :=
  let (w, ws) := s.foldr
    (fun c (w, ws) => if isBlank c then ([], closeWord w ws) else (c :: w, ws)) ([], [])
  closeWord w ws

/-- The words of a text with a single space between neighbours. -/
def collapse (s : List Char) : List Char := [' '].intercalate (words s)

/-- The lines of a text: the pieces between line feeds, at least one. -/
def lines (s : List Char) : List (List Char) :=
  let (w, ws) := s.foldr
    (fun c (w, ws) => if c = '\n' then ([], w :: ws) else (c :: w, ws)) ([], [])
  w :: ws

end Coursebook.Text

namespace String

/-- The text without blanks at either end. -/
def trimBlanks (s : String) : String := ofList (Coursebook.Text.trim s.toList)

end String
