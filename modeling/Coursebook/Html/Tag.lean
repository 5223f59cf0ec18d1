import Coursebook.Html.Reference
import Coursebook.Text.Blank
import Coursebook.Text.LowerCase

/-!
# Coursebook — start tags of HTML

A start tag is read with whatever its author wrote: a slash counts as a blank, a value may lack its
quotes, and quotes may be left open. `scanTag` gives the tag or says why there is none.
-/

namespace Coursebook.Html

open Coursebook.Text

/-- An attribute: its name and its value. -/
abbrev Attribute := String × String

/-- What a `<` with a letter behind it begins. -/
inductive TagScan where
  /-- A start tag, and the text after it; `closed` says that it ends in `/>`. -/
  | tag (name : String) (attributes : List Attribute) (closed : Bool) (rest : List Char)
  /-- No tag: text up to a character that no tag may hold. -/
  | junk (text rest : List Char)
  /-- A tag that the text ends within. -/
  | unfinished

/-- The characters that end the name of a tag. -/
def endsTagName (c : Char) : Bool :=
  c = '\t' || c = '\n' || c = '\r' || c = '\x0c' || c = ' ' || c = '/' || c = '>' || c = '\x00'

/-- The text without the blanks and slashes it starts with; a slash before `>` stays. -/
def skipFiller : List Char → List Char
  | [] => []
  | '/' :: '>' :: r => '/' :: '>' :: r
  | c :: r => if isBlank c ∨ c = '/' then skipFiller r else c :: r

/-- Whether an attribute may begin behind a character. -/
def mayPrecedeAttribute (c : Char) : Bool := c = '\'' || c = '"' || c = '/' || isBlank c

/-- The characters that end the name of an attribute, after its first one. -/
def endsAttributeName (c : Char) : Bool := c = '/' || c = '=' || c = '>' || isBlank c

/-- A value without quotes, and the text after it. -/
def bareValue (s : List Char) : List Char × List Char :=
  (s.takeWhile fun c => !(c = '>' || isBlank c), s.dropWhile fun c => !(c = '>' || isBlank c))

/-- The value between quotes at the start of a text, and the text after it. -/
def quotedValue? : List Char → Option (List Char × List Char)
  | [] => none
  | q :: r =>
    if q = '\'' ∨ q = '"' then
      match r.dropWhile (· != q) with
      | _ :: rest => some (r.takeWhile (· != q), rest)
      | [] => none
    else none

/-- Whether a text starts with a quote. -/
def startsWithQuote : List Char → Bool
  | c :: _ => c = '\'' || c = '"'
  | [] => false

/-- The value that the signs `=` after the name of an attribute announce, and the text after it. A
quote that is left open gives an empty value, or, right behind several signs, the last sign and
what follows it. -/
def attributeValue? (s : List Char) : Option (List Char × List Char) :=
  match s.dropWhile isBlank with
  | '=' :: r =>
    let afterSigns := r.dropWhile (· = '=')
    let value := afterSigns.dropWhile isBlank
    match quotedValue? value with
    | some found => some found
    | none =>
      if !startsWithQuote value then some (bareValue value)
      else if value.length < afterSigns.length then some ([], value)
      else if afterSigns.length < r.length then some (bareValue ('=' :: value))
      else none
  | _ => none

/-- The attributes of a tag and the text after them; `last` is the character before the text, and
`steps` bounds the number of attributes. -/
def scanAttributes : Nat → Char → List Char → List Attribute × List Char
  | 0, _, s => ([], s)
  | steps + 1, last, s =>
    match s with
    | [] => ([], [])
    | c :: r =>
      if !mayPrecedeAttribute last || isBlank c || c = '/' || c = '>' then ([], s)
      else
        let name := c :: r.takeWhile fun c => !endsAttributeName c
        let afterName := r.dropWhile fun c => !endsAttributeName c
        let (value, afterValue) := (attributeValue? afterName).getD ([], afterName)
        let next := skipFiller afterValue
        let used := s.take (s.length - next.length)
        let (attributes, rest) := scanAttributes steps (used.getLastD last) next
        ((Text.lower (.ofList name), .ofList (decodeValue value)) :: attributes, rest)

/-- The start tag after a `<`; its first letter stands at the start of the text. -/
def scanTag (s : List Char) : TagScan :=
  let name := s.takeWhile fun c => !endsTagName c
  let afterName := s.drop name.length
  let next := skipFiller afterName
  let used := s.take (s.length - next.length)
  let (attributes, rest) := scanAttributes (next.length + 1) (used.getLastD ' ') next
  let name := Text.lower (.ofList name)
  match rest with
  | '>' :: r => .tag name attributes false r
  | '/' :: '>' :: r => .tag name attributes true r
  | [] | '=' :: _ => .unfinished
  | rest => .junk ('<' :: s.take (s.length - rest.length)) rest

end Coursebook.Html
