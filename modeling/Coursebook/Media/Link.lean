import Coursebook.Media.FileName

/-!
# Coursebook — links to static files

A page refers to a static file by an attribute such as `src="/static/a b.png"`. `rewriteLinks`
points every such attribute at the media directory, and leaves all other text as it is. An
attribute is recognised by its text alone, wherever it stands, and either kind of quote may open
and close its value.
-/

namespace Coursebook.Media

/-- The attributes that refer to a file. -/
inductive LinkAttribute where
  | src
  | href
  deriving DecidableEq, Repr

/-- The name of the attribute. -/
def LinkAttribute.name : LinkAttribute → List Char
  | .src => ['s', 'r', 'c']
  | .href => ['h', 'r', 'e', 'f']

/-- A reference to a static file, and the text after it. -/
structure Link where
  /-- The attribute that holds the reference. -/
  attr : LinkAttribute
  /-- The path below the static directory, as the page writes it. -/
  path : List Char
  /-- The text after the quote that ends the value. -/
  rest : List Char

/-- The quotes around an attribute value. -/
def isQuote (c : Char) : Bool := c = '"' || c = '\''

/-- The text after `lead`, if it starts with it. -/
def after? (lead s : List Char) : Option (List Char) :=
  if lead.isPrefixOf s then some (s.drop lead.length) else none

/-- The beginning of a path that the static directory serves. -/
def staticRoot : List Char := "/static/".toList

/-- The reference that the value of an attribute makes, from the `=` on. -/
def linkValue? (attr : LinkAttribute) (s : List Char) : Option Link := do
  match ← after? ['='] s with
  | q :: r =>
    guard (isQuote q)
    let r ← after? staticRoot r
    let path := r.takeWhile fun c => !isQuote c
    guard (!path.isEmpty)
    match r.dropWhile fun c => !isQuote c with
    | _ :: rest => some ⟨attr, path, rest⟩
    | [] => none
  | [] => none

/-- The reference at the start of a text. -/
def link? (s : List Char) : Option Link :=
  match after? LinkAttribute.src.name s with
  | some r => linkValue? .src r
  | none => after? LinkAttribute.href.name s >>= linkValue? .href

/-- The attribute that refers to the copy in the media directory. -/
def Link.render (mediaDir : List Char) (l : Link) : List Char :=
  l.attr.name ++ "=\"./".toList ++ mediaDir ++ '/' :: mediaName l.path ++ ['"']

/-- The text with its references rewritten, after `skip` characters that belong to a reference
already written. -/
def rewriteFrom (mediaDir : List Char) : Nat → List Char → List Char
  | _, [] => []
  | skip + 1, _ :: r => rewriteFrom mediaDir skip r
  | 0, c :: r =>
    match link? (c :: r) with
    | some l => l.render mediaDir ++ rewriteFrom mediaDir (r.length - l.rest.length) r
    | none => c :: rewriteFrom mediaDir 0 r

/-- The text with every reference to a static file, leftmost first, pointed at the media
directory. -/
def rewriteLinks (mediaDir : List Char) (s : List Char) : List Char := rewriteFrom mediaDir 0 s

end Coursebook.Media
