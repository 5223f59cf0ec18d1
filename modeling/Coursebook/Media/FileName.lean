import Coursebook.Text.Blank
import Coursebook.Text.Percent

/-!
# Coursebook — media file names

The media directory is flat: the path of a static file below `static/` becomes one safe name.

* `sanitize` keeps ASCII letters, digits, `.`, `_` and `-`, and writes one underscore for each
  stretch of anything else, none at the ends.
* `mediaName` is the name for a path as a page writes it: escapes decoded, query and fragment cut.
-/

namespace Coursebook.Media

open Coursebook.Text

/-- The characters that a media file name may hold. -/
def isSafe (c : Char) : Bool := c.isAlphanum || c = '.' || c = '_' || c = '-'

/-- Writes one underscore for each stretch of characters that a name may not hold; `inside` says
whether such a stretch has begun. -/
def replaceUnsafe (inside : Bool) : List Char → List Char
  | [] => []
  | c :: r =>
    if isSafe c then c :: replaceUnsafe false r
    else if inside then replaceUnsafe true r
    else '_' :: replaceUnsafe true r

/-- Writes one underscore for each run of them. -/
def squeezeUnderscores : List Char → List Char
  | [] => []
  | c :: r =>
    match squeezeUnderscores r with
    | [] => [c]
    | d :: s => if c = '_' ∧ d = '_' then d :: s else c :: d :: s

/-- The safe name of a text. -/
def sanitize (s : List Char) : List Char :=
  stripWhile (· = '_') (squeezeUnderscores (replaceUnsafe false s))

/-- A path without its query and fragment. -/
def dropQuery (s : List Char) : List Char := s.takeWhile fun c => c != '?' && c != '#'

/-- The name in the media directory for a path below the static directory. -/
def mediaName (s : List Char) : List Char := sanitize (dropQuery (percentDecode s))

end Coursebook.Media
