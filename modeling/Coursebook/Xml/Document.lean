import Coursebook.Xml.Element
import Coursebook.Xml.Namespace

/-!
# Coursebook — reading XML documents

From the octets of a document to its root element.

A document is a declaration, a document type, and one element with its content; comments,
processing instructions and white space may stand around it. Comments and instructions inside the
element vanish and the text around them joins. References to entities of the document type are
replaced, and an entity that could only be declared outside the document is a fault where it is
used.
-/

namespace Coursebook.Xml

/-- An element whose end tag has not been read. -/
structure OpenElement where
  /-- The name as it is written, which the end tag has to repeat. -/
  written : List Char
  name : String
  attributes : List (String × String)
  /-- The content so far, last item first. -/
  content : List Item := []
  /-- The text behind that content, last character first. -/
  text : List Char := []
  /-- The namespaces in scope around the element. -/
  outer : Namespaces

/-- The content so far with the text behind it. -/
def OpenElement.flushed (e : OpenElement) : List Item :=
  if e.text.isEmpty then e.content else .text (.ofList e.text.reverse) :: e.content

/-- The finished element. -/
def OpenElement.close (e : OpenElement) : Item := .element e.name e.attributes e.flushed.reverse

/-- The elements that are open, innermost first, and the namespaces in scope. -/
structure Builder where
  stack : List OpenElement := []
  namespaces : Namespaces := .initial
  /-- The finished root element. -/
  root : Option Item := none

/-- Adds a character of text. -/
def Builder.addChar (b : Builder) (c : Char) : Builder :=
  match b.stack with
  | [] => b
  | e :: r => { b with stack := { e with text := c :: e.text } :: r }

/-- Adds a finished element. -/
def Builder.addItem (b : Builder) (i : Item) : Builder :=
  match b.stack with
  | [] => { b with root := some i }
  | e :: r => { b with stack := { e with content := i :: e.flushed, text := [] } :: r }

/-- Opens an element, or adds it at once where its tag also ends it. -/
def Builder.open_ (b : Builder) (tag : WrittenTag) (name : String)
    (attributes : List (String × String)) (inner : Namespaces) : Builder :=
  if tag.empty then b.addItem (.element name attributes [])
  else
    let e : OpenElement := ⟨tag.name, name, attributes, [], [], b.namespaces⟩
    { b with stack := e :: b.stack, namespaces := inner }

/-- Ends the innermost element. -/
def Builder.close (b : Builder) : Builder :=
  match b.stack with
  | [] => b
  | e :: r => { b with stack := r, namespaces := e.outer }.addItem e.close

/-- The text of a section in which markup does not count, after its opening; its line ends become
line feeds. -/
def sectionText : Input → Scan (List Char × Input)
  | .char ']' :: .char ']' :: .char '>' :: r => .ok ([], r)
  | .char '\r' :: .char '\n' :: r => do
    let (v, t) ← sectionText r
    .ok ('\n' :: v, t)
  | [.char '\r'] => fail .unclosedCdata [.char '\r']
  | [.char ']'] => fail .unclosedCdata [.char ']']
  | [.char ']', .char ']'] => fail .unclosedCdata [.char ']', .char ']']
  | .char c :: r =>
    if isLegal c then do
      let (v, t) ← sectionText r
      .ok ((if c = '\r' then '\n' else c) :: v, t)
    else fail .invalidToken (.char c :: r)
  | .malformed :: r => fail .invalidToken (.malformed :: r)
  | .cutShort :: r => fail .partialCharacter (.cutShort :: r)
  | s => fail .unclosedCdata s

/-- The opening of such a section, after its `<![`. -/
def sectionOpening (start : Input) : List Char → Input → Scan Input
  | [], s => .ok s
  | c :: r, s => do sectionOpening start r (← expect start c s)

/-- Where content stands: in the document, or in the replacement text of entities. -/
structure ContentPlace where
  /-- The place of the outermost reference, whose faults all inner ones are. -/
  reference : Option Nat := none
  /-- The entities being replaced. -/
  entities : List (List Char) := []
  /-- The elements open where the text starts. -/
  depth : Nat := 0

/-- A fault as one of the text it stands in. -/
def ContentPlace.lift {α : Type} (p : ContentPlace) : Scan α → Scan α
  | .error f => .error ⟨f.fault, p.reference.getD f.left⟩
  | .ok a => .ok a

/-- The content of elements, up to the end of the root element or of the replacement text. -/
def content (d : Declarations) (place : ContentPlace) :
    Nat → Builder → Input → Scan (Builder × Input)
  | 0, _, s => fail .unclosedToken s
  | steps + 1, b, s =>
    match s with
    | [] =>
      if place.reference.isSome then
        if b.stack.length = place.depth then .ok (b, [])
        else place.lift (fail .asynchronousEntity [])
      else fail .noElement []
    | .char '<' :: r => do
      let (c, r') ← place.lift (next s r)
      if c = '/' then
        let (name, t) ← place.lift (endTag s r')
        if b.stack.length = place.depth then place.lift (fail .asynchronousEntity s)
        else if b.stack.head?.map (·.written) ≠ some name then
          place.lift (fail .mismatchedTag r')
        else
          let b := b.close
          if b.stack.isEmpty then .ok (b, t) else content d place steps b t
      else if c = '!' then
        let (k, t) ← place.lift (next s r')
        if k = '-' then
          let t ← place.lift (expect s '-' t)
          let t ← place.lift (comment s t)
          content d place steps b t
        else if k = '[' then
          if t.length < 6 ∧ t.all (fun x => match x with | .char _ => true | _ => false) then
            place.lift (fail .unclosedToken s)
          else
            let t ← place.lift (sectionOpening s "CDATA[".toList t)
            let (v, t) ← place.lift (sectionText t)
            content d place steps (v.foldl Builder.addChar b) t
        else place.lift (fail .invalidToken r')
      else if c = '?' then
        match ← place.lift (processingInstruction s r') with
        | (.declaration, _) => place.lift (fail .misplacedDeclaration s)
        | (.other, t) => content d place steps b t
      else
        let (tag, t) ← place.lift (startTag s r)
        let start := place.reference.getD s.length
        let (name, attributes, inner) ←
          tag.resolve d start place.reference.isSome b.namespaces
        let b := b.open_ tag name attributes inner
        if b.stack.isEmpty then .ok (b, t) else content d place steps b t
    | .char '&' :: r => do
      match ← place.lift (reference s r) with
      | (.character (some c), t) => content d place steps (b.addChar c) t
      | (.character none, _) => place.lift (fail .invalidCharacterNumber s)
      | (.entity n, t) =>
        match predefined n with
        | some c => content d place steps (b.addChar c) t
        | none =>
          match d.entities.lookup n with
          | none =>
            place.lift (fail (if d.strict then .undefinedEntity else .unreadEntity (.ofList n)) s)
          | some entity =>
            if n ∈ place.entities then place.lift (fail .recursiveEntity s)
            else match entity with
              | .unparsed => place.lift (fail .binaryEntity s)
              | .external => place.lift (fail (.unreadEntity (.ofList n)) s)
              | .replacement text =>
                let inner : ContentPlace :=
                  ⟨some (place.reference.getD s.length), n :: place.entities, b.stack.length⟩
                let (b, _) ← content d inner steps b (text.map .char)
                content d place steps b t
    | .char '\r' :: .char '\n' :: r => content d place steps (b.addChar '\n') r
    | [.char '\r'] =>
      if place.reference.isSome then content d place steps (b.addChar '\n') []
      else fail .noElement s
    | .char '\r' :: r => content d place steps (b.addChar '\n') r
    | .char ']' :: .char ']' :: .char '>' :: r => place.lift (fail .invalidToken (.char '>' :: r))
    | .char c :: r =>
      if isLegal c then content d place steps (b.addChar c) r
      else place.lift (fail .invalidToken s)
    | .malformed :: _ => place.lift (fail .invalidToken s)
    | .cutShort :: _ => place.lift (fail .partialCharacter s)
    | .undecided :: _ => place.lift (fail .unclosedToken s)

/-- What may stand behind the root element. -/
def epilog : Nat → Input → Scan Unit
  | 0, _ => .ok ()
  | steps + 1, s =>
    match s with
    | [] => .ok ()
    | s => do
      match ← token s with
      | (.space, r) => epilog steps r
      | (.comment, r) => epilog steps r
      | (.instruction, r) => epilog steps r
      | _ => fail .junkAfterElement s

/-- What stands before the root element, after the declaration: at most one document type, and the
place of the root element. -/
def prolog : Nat → Bool → Declarations → Input → Scan (Declarations × Input)
  | 0, _, _, _ => fail .noElement []
  | steps + 1, typed, d, s => do
    match ← solidToken s with
    | (_, .comment, r) => prolog steps typed d r
    | (_, .instruction, r) => prolog steps typed d r
    | (_, .startTag, r) => .ok (d, r)
    | (place, .openDeclaration k, r) =>
      if typed || !isWord k "DOCTYPE" then fail .syntaxError place
      else
        let (d, r) ← documentType d r
        prolog steps true d r
    | (place, t, _) => refuse place t

/-- A pseudo attribute of the declaration: its name and value, and where they start. -/
structure PseudoAttribute where
  name : List Char
  namePlace : Input
  value : List Char
  valuePlace : Input

/-- The name of a pseudo attribute and what follows it. -/
def pseudoName : Input → Except Input (List Char × Input)
  | .char c :: r =>
    if c = '=' ∨ isSpace c then .ok ([], .char c :: r)
    else if c.toNat < 0x80 then (pseudoName r).map fun (n, t) => (c :: n, t)
    else .error (.char c :: r)
  | s => .error s

/-- The value of a pseudo attribute and what follows the quote that ends it. -/
def pseudoValue (quote : Char) : Input → Except Input (List Char × Input)
  | .char c :: r =>
    if c = quote then .ok ([], r)
    else if c.isAlphanum ∨ c = '.' ∨ c = '-' ∨ c = '_' then
      (pseudoValue quote r).map fun (n, t) => (c :: n, t)
    else .error (.char c :: r)
  | s => .error s

/-- The next pseudo attribute, if there is one; a fault is told by its place. -/
def pseudoAttribute (s : Input) : Except Input (Option (PseudoAttribute × Input)) := do
  match s with
  | [] => .ok none
  | _ =>
    let r := skipSpace s
    if r.length = s.length then throw s
    if r.isEmpty then return none
    let (n, t) ← pseudoName r
    let t ← match skipSpace t with
      | .char '=' :: t => .ok t
      | t => .error t
    if n.isEmpty then throw r
    match skipSpace t with
    | .char q :: t =>
      if q = '"' ∨ q = '\'' then
        let (v, u) ← pseudoValue q t
        return some (⟨n, r, v, t⟩, u)
      else throw (.char q :: t)
    | t => throw t

/-- What the declaration of a document says. -/
structure DocumentDeclaration where
  /-- The encoding, and the symbols from its name to the end of the declaration. -/
  encoding : Option (List Char × Input) := none
  standalone : Bool := false

/-- The parts of a declaration behind its version. -/
def declarationParts (s : Input) : Except Input DocumentDeclaration := do
  match ← pseudoAttribute s with
  | none => throw s
  | some (v, r) =>
    if v.name ≠ "version".toList then throw v.namePlace
    match ← pseudoAttribute r with
    | none => return {}
    | some (a, r) =>
      if a.name = "encoding".toList then
        if !(a.value.head?.any Char.isAlpha) then throw a.valuePlace
        match ← pseudoAttribute r with
        | none => return { encoding := some (a.value, a.valuePlace) }
        | some (b, r) =>
          let alone ← standalone b r
          return { encoding := some (a.value, a.valuePlace), standalone := alone }
      else
        let alone ← standalone a r
        return { standalone := alone }
where
  /-- The last part of a declaration. -/
  standalone (a : PseudoAttribute) (r : Input) : Except Input Bool := do
    if a.name ≠ "standalone".toList then throw a.namePlace
    if a.value ≠ "yes".toList ∧ a.value ≠ "no".toList then throw a.valuePlace
    match skipSpace r with
    | [] => return a.value = "yes".toList
    | r => throw r

/-- The text of a declaration between its target and its end. -/
def declarationBody (s r : Input) : Extent :=
  ⟨(s.drop 5).take (s.length - r.length - 7), r.length + 2⟩

/-- Why the rest of a document cannot be read, or what to read it as. -/
inductive Switch where
  | fault (fault : Fault)
  | error (error : XmlError)
  | to (encoding : Encoding)

/-- What a declared encoding means for a document read in another one so far. -/
def Encoding.switch (current : Encoding) (name : List Char) : Switch :=
  let upper := String.ofList (name.map Char.toUpper)
  if upper = "UTF-16" ∨ upper = "UTF-16BE" ∨ upper = "UTF-16LE" then
    match current with
    | .utf16 bigEndian =>
      if upper = "UTF-16" ∨ upper = (if bigEndian then "UTF-16BE" else "UTF-16LE") then .to current
      else .fault .wrongEncoding
    | _ => .fault .wrongEncoding
  else if upper = "UTF-8" ∨ upper = "ISO-8859-1" ∨ upper = "US-ASCII" then
    match current with
    | .utf16 _ => .fault .wrongEncoding
    | _ =>
      if upper = "UTF-8" then .to .utf8
      else match CodePage.ofName upper with
        | .upper chars => .to (.singleOctet chars)
        | _ => .to .utf8
  else
    match CodePage.ofName (.ofList name) with
    | .upper chars => .to (.singleOctet chars)
    | .foreign => .fault .unknownEncoding
    | .multiOctet => .error .multiOctetEncoding
    | .octetCodec => .error (.notTextEncoding (.ofList name))
    | .unknown => .error (.unknownEncoding (.ofList name))

/-- The position behind the first symbols of a document. -/
def positionAfter : Input → Position → Position
  | [], p => p
  | .char '\r' :: .char '\n' :: r, p => positionAfter r ⟨p.line + 1, 0⟩
  | .char c :: r, p =>
    positionAfter r (if c = '\n' ∨ c = '\r' then ⟨p.line + 1, 0⟩ else ⟨p.line, p.column + 1⟩)
  | _ :: r, p => positionAfter r ⟨p.line, p.column + 1⟩

/-- A fault with its position in a document. -/
def Failure.located (f : Failure) (document : Input) : XmlError :=
  .malformed f.fault (positionAfter (document.take (document.length - f.left)) ⟨1, 0⟩)

/-- The root element of a document, from behind its declaration on. -/
def rootElement (standalone : Bool) (s : Input) : Scan Item := do
  let (d, r) ← prolog (s.length + 1) false { standalone } s
  let (b, t) ← content d {} (r.length + d.weight + 1) {} r
  epilog (t.length + 1) t
  match b.root with
  | some i => .ok i
  | none => fail .noElement []

/-- Reads a document whose first octets have told its encoding. `fixed` says that the encoding is
known to be right, whatever the declaration says. -/
def Source.root (source : Source) (fixed : Bool) : Except XmlError Item :=
  let first := source.encoding.symbols source.body
  let document := source.mark ++ first
  let located := fun {α : Type} (doc : Input) (r : Scan α) => r.mapError (·.located doc)
  match first with
  | [] => located document (fail .noElement [])
  | _ => do
    let opening := match first with
      | .char '<' :: .char '?' :: r =>
        match processingInstruction first r with
        | .ok (.declaration, t) => some t
        | _ => none
      | _ => none
    match opening with
    | none => located document (rootElement false first)
    | some r =>
      let body := declarationBody first r
      match declarationParts body.symbols with
      | .error s => .error ((Failure.mk .malformedDeclaration (body.left s)).located document)
      | .ok parts =>
        match (if fixed then none else parts.encoding) with
        | none => located document (rootElement parts.standalone r)
        | some (name, place) =>
          match source.encoding.switch name with
          | .fault fault => .error ((Failure.mk fault (body.left place)).located document)
          | .error e => .error e
          | .to encoding =>
            let read := first.length - r.length
            let rest := encoding.symbols (source.body.drop (source.encoding.width * read))
            let document := source.mark ++ first.take read ++ rest
            located document (rootElement parts.standalone rest)

/-- Reads the root element of a document. `fixed` says that the document is UTF-8 whatever its
declaration says. -/
def Element.read (bytes : List UInt8) (fixed : Bool) : Except XmlError Element :=
  match Source.ofBytes? bytes with
  | none => .error (.malformed .unclosedToken ⟨1, 0⟩)
  | some source => do
    match (← source.root fixed).element? with
    | some e => .ok e
    | none => .error (.malformed .noElement ⟨1, 0⟩)

end Coursebook.Xml
