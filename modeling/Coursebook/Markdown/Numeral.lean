import Coursebook.Markdown.Convert

/-!
# Coursebook — numbers in a page

A page gives numbers in two attributes: how many columns a cell takes, and where an ordered list
starts. A value that is no number at all is passed over, but one made of number signs that write no
decimal number, such as `½`, makes the page unreadable. `badNumberIn` looks for the first of
these.
-/

namespace Coursebook.Markdown

open Coursebook.Html Coursebook.Text

/-- A value of nothing but number signs that is no decimal number. -/
def badNumber? (isSign : Char → Bool) (value : String) : Option String :=
  let s := value.toList
  if s != [] && s.all isSign && (decimal? s).isNone then some value else none

/-- The number that an element gives badly, if it is one that gives a number. -/
def ownBadNumber? (p : Place) (e : Element) (text : List Char) : Option String :=
  match ElementKind.ofName e.name with
  | .cell => badNumber? isDigit (e.attributeD "colspan")
  | .item =>
    if (trim text).isEmpty then none
    else
      match p.parent? with
      | some list => if list.name = "ol" then badNumber? isNumber (list.attributeD "start") else none
      | none => none
  | _ => none

mutual
/-- The first number that a node or something in it gives badly. -/
def badNumberIn (p : Place) : Node → Option String
  | .text .. => none
  | .element name attributes children =>
    let e : Element := ⟨name, attributes, children⟩
    match badNumberAmong (p.inside e) [] children with
    | some value => some value
    | none =>
      match ElementKind.ofName name with
      | .cell | .item => ownBadNumber? p e (joinPieces (childTexts (p.inside e) [] children))
      | _ => none

/-- The first number given badly in the nodes of an element, from one of them on. -/
def badNumberAmong (ancestors : List Ancestor) (before : List Node) : List Node → Option String
  | [] => none
  | n :: r =>
    match badNumberIn ⟨ancestors, before, r⟩ n with
    | some value => some value
    | none => badNumberAmong ancestors (n :: before) r
end

/-- The first number that a page gives badly. -/
def badNumberOfPage (page : Page) : Option String :=
  badNumberAmong [⟨pageElement page, [], []⟩] [] page

end Coursebook.Markdown
