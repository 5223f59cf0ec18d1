import Coursebook.Html.Node

/-!
# Coursebook — building trees of HTML

A tree is built from tokens with a list of the elements that are open, innermost first. No element
ends by itself, except those that cannot have content: an end tag closes everything up to the
nearest open element of its name, and is passed over where there is none. Where an element that
cannot have content has been read, one end tag of its name is passed over, wherever it comes.
-/

namespace Coursebook.Html

/-- The elements that end where they begin. -/
def voidElements : List String :=
  ["area", "base", "br", "col", "embed", "hr", "img", "input", "keygen", "link", "menuitem", "meta",
    "param", "source", "track", "wbr", "basefont", "bgsound", "command", "frame", "image", "isindex",
    "nextid", "spacer"]

/-- The elements in which blanks are kept as they are. -/
def blankKeepingElements : List String := ["pre", "textarea"]

/-- An element that is open, and the nodes before it in the element around it, last one first. -/
structure OpenElement where
  name : String
  attributes : List Attribute
  before : List Node

/-- A tree that is being built. -/
structure Builder where
  /-- The elements that are open, innermost first. -/
  opened : List OpenElement := []
  /-- The nodes of the innermost open element so far, last one first. -/
  here : List Node := []
  /-- Text that may go on with the next token. -/
  pending : List Char := []
  /-- The names of which one end tag has still to be passed over. -/
  passed : List String := []

/-- The blanks that count as layout. -/
def isLayout (c : Char) : Bool := c = ' ' || c = '\n' || c = '\t' || c = '\x0c' || c = '\r'

/-- A text of nothing but layout as one blank. -/
def foldLayout (s : List Char) : List Char :=
  if s.all isLayout then (if s.contains '\n' then ['\n'] else [' ']) else s

namespace Builder

/-- Adds a node to the innermost open element. -/
def add (b : Builder) (n : Node) : Builder := { b with here := n :: b.here }

/-- Adds a text to the innermost open element. -/
def addText (b : Builder) (kind : TextKind) (s : List Char) : Builder :=
  b.add (.text kind
    (if b.opened.any fun e => blankKeepingElements.contains e.name then s else foldLayout s))

/-- Ends the text that may go on. -/
def flush (b : Builder) : Builder :=
  if b.pending = [] then b else { b.addText .plain b.pending with pending := [] }

/-- Opens an element. -/
def push (b : Builder) (name : String) (attributes : List Attribute) : Builder :=
  { b with opened := ⟨name, attributes, b.here⟩ :: b.opened, here := [] }

/-- Closes the open elements up to the first with a name. -/
def closeTo (name : String) : List OpenElement → List Node → List OpenElement × List Node
  | [], here => ([], here)
  | e :: opened, here =>
    let here := .element e.name e.attributes here.reverse :: e.before
    if e.name = name then (opened, here) else closeTo name opened here

/-- Closes all open elements. -/
def closeAll : List OpenElement → List Node → List Node
  | [], here => here
  | e :: opened, here => closeAll opened (.element e.name e.attributes here.reverse :: e.before)

/-- An end tag that is not passed over. -/
def close (b : Builder) (name : String) : Builder :=
  let b := b.flush
  if b.opened.any (·.name == name) then
    let (opened, here) := closeTo name b.opened b.here
    { b with opened, here }
  else b

/-- An end tag. -/
def endTag (b : Builder) (name : String) : Builder :=
  if b.passed.contains name then { b with passed := b.passed.erase name } else b.close name

/-- A start tag. -/
def startTag (b : Builder) (name : String) (attributes : List Attribute) (closed : Bool) : Builder :=
  let b := b.flush.push name attributes
  if closed then b.endTag name
  else if voidElements.contains name then
    let b := b.close name
    { b with passed := b.passed ++ [name] }
  else b

/-- Takes in the next token. -/
def step (b : Builder) : Token → Builder
  | .text .plain s => { b with pending := b.pending ++ s }
  | .text kind s => b.flush.addText kind s
  | .startTag name attributes closed => b.startTag name attributes closed
  | .endTag name => b.endTag name

/-- The nodes of the page, the elements that are still open included. -/
def finish (b : Builder) : Page :=
  let b := b.flush
  (closeAll b.opened b.here).reverse

end Builder

/-- The page that tokens make. -/
def Page.ofTokens (tokens : List Token) : Page := (tokens.foldl Builder.step {}).finish

/-- Reads a page. -/
def Page.read (s : List Char) : Except MarkupError Page := do
  .ok (Page.ofTokens (← tokens s))

end Coursebook.Html
