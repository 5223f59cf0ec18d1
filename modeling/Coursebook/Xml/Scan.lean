import Coursebook.Xml.Fault
import Coursebook.Xml.NameChar
import Coursebook.Xml.Symbol

/-!
# Coursebook — scanning XML

The pieces of markup that are recognised character by character: names, references, attribute
values, tags, comments and processing instructions.

A scan gets the symbols from where it starts and gives what it found and the symbols after it. A
fault says how many symbols are left from its place on, which tells the place in the document. A
piece that the document ends within is at fault at its first symbol, so scans are also given the
symbols from there, under the name `start`.
-/

namespace Coursebook.Xml

/-- The symbols of a document from some place on. -/
abbrev Input := List Symbol

/-- A fault, and the number of symbols from its place to the end. -/
structure Failure where
  fault : Fault
  left : Nat
  deriving Repr

/-- What a scan gives. -/
abbrev Scan := Except Failure

/-- A fault at the first of the symbols given. -/
def fail {α : Type} (fault : Fault) (place : Input) : Scan α := .error ⟨fault, place.length⟩

/-- The next character of a piece of markup. -/
def next (start : Input) : Input → Scan (Char × Input)
  | [] => fail .unclosedToken start
  | .char c :: r => .ok (c, r)
  | .malformed :: r => fail .invalidToken (.malformed :: r)
  | .cutShort :: _ => fail .partialCharacter start
  | .undecided :: _ => fail .unclosedToken start

/-- The next character, which has to be `c`. -/
def expect (start : Input) (c : Char) (s : Input) : Scan Input := do
  let (d, r) ← next start s
  if d = c then .ok r else fail .invalidToken s

/-- The symbols without the white space they start with. -/
def skipSpace : Input → Input
  | [] => []
  | .char c :: r => if isSpace c then skipSpace r else .char c :: r
  | s => s

/-- The name characters that symbols start with, and the symbols after them. -/
def nameChars : Input → List Char × Input
  | [] => ([], [])
  | .char c :: r =>
    if isNameChar c then
      let (n, s) := nameChars r
      (c :: n, s)
    else ([], .char c :: r)
  | s => ([], s)

/-- A name without a colon. -/
def plainName (start s : Input) : Scan (List Char × Input) := do
  let (c, r) ← next start s
  if isNameStart c then
    let (n, r) := nameChars r
    .ok (c :: n, r)
  else fail .invalidToken s

/-- A name with at most one colon, which has a plain name on either side. -/
def qualifiedName (start s : Input) : Scan (List Char × Input) := do
  let (n, r) ← plainName start s
  match r with
  | .char ':' :: r =>
    let (m, r) ← plainName start r
    .ok (n ++ ':' :: m, r)
  | r => .ok (n, r)

/-- A reference inside text or an attribute value. -/
inductive Reference where
  /-- To an entity. -/
  | entity (name : List Char)
  /-- To a character by its number, `none` where no document may hold it. -/
  | character (c : Option Char)

/-- The character with a number, if a document may hold it. -/
def charOfNumber (n : Nat) : Option Char :=
  if isLegalCode n ∧ ¬(0xd800 ≤ n ∧ n ≤ 0xdfff) ∧ n < 0x110000 then some (Char.ofNat n) else none

/-- The digits that symbols start with, and the symbols after them. -/
def digits (isDigit : Char → Bool) : Input → List Char × Input
  | [] => ([], [])
  | .char c :: r =>
    if isDigit c then
      let (n, s) := digits isDigit r
      (c :: n, s)
    else ([], .char c :: r)
  | s => ([], s)

/-- The digits and the semicolon of a character reference. -/
def characterNumber (start : Input) (hexadecimal : Bool) (s : Input) : Scan (Reference × Input) := do
  let isDigit := fun c => if hexadecimal then (Text.hexDigit? c).isSome else c.isDigit
  let (c, _) ← next start s
  if !isDigit c then fail .invalidToken s
  else
    let (ds, r) := digits isDigit s
    let r ← expect start ';' r
    let base := if hexadecimal then 16 else 10
    let n := ds.foldl (fun n d => base * n + (Text.hexDigit? d).getD 0) 0
    .ok (.character (charOfNumber n), r)

/-- A reference, after its ampersand. -/
def reference (start s : Input) : Scan (Reference × Input) := do
  match ← next start s with
  | ('#', r) =>
    match ← next start r with
    | ('x', r) => characterNumber start true r
    | _ => characterNumber start false r
  | _ =>
    let (n, r) ← plainName start s
    let r ← expect start ';' r
    .ok (.entity n, r)

/-- Text kept with its place: the symbols, and how many follow them. -/
structure Extent where
  symbols : Input
  after : Nat

/-- The symbols of an attribute value up to the quote that ends it, references checked; `steps`
bounds the number of symbols read. -/
def valueSymbols (start : Input) (quote : Char) : Nat → Input → Scan (Input × Input)
  | 0, _ => fail .unclosedToken start
  | steps + 1, s => do
    let (c, r) ← next start s
    if c = quote then .ok ([], r)
    else if c = '&' then
      let (_, r) ← reference start r
      let (v, t) ← valueSymbols start quote steps r
      .ok (s.take (s.length - r.length) ++ v, t)
    else if c = '<' ∨ !isLegal c then fail .invalidToken s
    else
      let (v, t) ← valueSymbols start quote steps r
      .ok (.char c :: v, t)

/-- An attribute as it is written. -/
structure WrittenAttribute where
  /-- The name, with its prefix. -/
  name : List Char
  /-- The symbols from the name to the end of the document. -/
  place : Input
  /-- The value between its quotes. -/
  value : Extent

/-- One attribute, from its name to the quote that ends its value. -/
def writtenAttribute (start s : Input) : Scan (WrittenAttribute × Input) := do
  let (name, r) ← qualifiedName start s
  let r ← expect start '=' (skipSpace r)
  let r := skipSpace r
  let (q, r') ← next start r
  if q = '"' ∨ q = '\'' then
    let (value, t) ← valueSymbols start q (r'.length + 1) r'
    .ok (⟨name, s, ⟨value, t.length + 1⟩⟩, t)
  else fail .invalidToken r

/-- A start tag as it is written. -/
structure WrittenTag where
  /-- The name, with its prefix. -/
  name : List Char
  /-- The attributes, in order. -/
  attributes : List WrittenAttribute
  /-- Whether the tag also ends its element. -/
  empty : Bool

/-- The attributes of a start tag and its end, from behind its name or an attribute on. -/
def tagRest (start : Input) : Nat → Input → Scan (List WrittenAttribute × Bool × Input)
  | 0, _ => fail .unclosedToken start
  | steps + 1, s => do
    let r := skipSpace s
    let (c, r') ← next start r
    if c = '>' then .ok ([], false, r')
    else if c = '/' then
      let r' ← expect start '>' r'
      .ok ([], true, r')
    else if r.length = s.length then fail .invalidToken r
    else
      let (a, t) ← writtenAttribute start r
      let (as, isEmpty, t) ← tagRest start steps t
      .ok (a :: as, isEmpty, t)

/-- A start tag, after its `<`. -/
def startTag (start s : Input) : Scan (WrittenTag × Input) := do
  let (name, r) ← qualifiedName start s
  let (as, isEmpty, r) ← tagRest start (r.length + 1) r
  .ok (⟨name, as, isEmpty⟩, r)

/-- The name characters and colons that symbols start with, and the symbols after them. -/
def colonNameChars : Input → List Char × Input
  | [] => ([], [])
  | .char c :: r =>
    if isNameChar c ∨ c = ':' then
      let (n, s) := colonNameChars r
      (c :: n, s)
    else ([], .char c :: r)
  | s => ([], s)

/-- An end tag, after its `</`. -/
def endTag (start s : Input) : Scan (List Char × Input) := do
  let (c, _) ← next start s
  if !isNameStart c then fail .invalidToken s
  else
    let (name, r) := colonNameChars s
    let r ← expect start '>' (skipSpace r)
    .ok (name, r)

/-- The text of a comment and its end, after its `<!--`. -/
def comment (start : Input) : Input → Scan Input
  | .char '-' :: .char '-' :: r => expect start '>' r
  | .char c :: r => if isLegal c then comment start r else fail .invalidToken (.char c :: r)
  | s => do
    let (_, r) ← next start s
    .ok r

/-- The text of a processing instruction and its end, after its target. -/
def instruction (start : Input) : Input → Scan Input
  | .char '?' :: .char '>' :: r => .ok r
  | .char c :: r => if isLegal c then instruction start r else fail .invalidToken (.char c :: r)
  | s => do
    let (_, r) ← next start s
    .ok r

/-- Whether a processing instruction is the declaration of the document. -/
inductive InstructionKind where
  | declaration
  | other
  deriving DecidableEq

/-- A processing instruction, after its `<?`. The target `xml` makes it a declaration; the same
target in other letters is refused. -/
def processingInstruction (start s : Input) : Scan (InstructionKind × Input) := do
  let (target, r) ← plainName start s
  let isXml := target.map Char.toLower == "xml".toList
  let kind := if isXml then .declaration else .other
  let (c, r') ← next start r
  if !isSpace c && c != '?' || (isXml && target != "xml".toList) then fail .invalidToken r
  else if c = '?' then
    let t ← expect start '>' r'
    .ok (kind, t)
  else
    let t ← instruction start r'
    .ok (kind, t)

end Coursebook.Xml
