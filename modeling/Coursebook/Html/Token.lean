import Coursebook.Html.Tag
import Coursebook.Text.Quoted

/-!
# Coursebook — tokens of HTML

A page is cut into tags, pieces of text, comments and the like. Hardly any text is refused: what
does not make sense as markup counts as text or as a comment. Only a marked section with an unknown
or missing name cannot be read.

A page is scanned twice. The first scan stops at markup that may go on behind the end of the text;
the second one takes up there and reads such markup as text.
-/

namespace Coursebook.Html

open Coursebook.Text

/-- Kinds of text in a page. -/
inductive TextKind where
  | plain
  | comment
  | doctype
  | cdata
  | instruction
  /-- A marked section other than CDATA. -/
  | declaration
  deriving DecidableEq, Repr

/-- A piece of a page. -/
inductive Token where
  /-- Text; neighbouring pieces of plain text belong together. -/
  | text (kind : TextKind) (content : List Char)
  /-- A start tag; `closed` says that it ends in `/>`. -/
  | startTag (name : String) (attributes : List Attribute) (closed : Bool)
  | endTag (name : String)
  deriving Repr

/-- Why a page cannot be read. -/
inductive MarkupError where
  /-- A marked section without a name; `place` is the text from there on. -/
  | expectedName (place : List Char)
  /-- A marked section with an unknown name, given with the blanks behind it. -/
  | unknownSection (name : List Char)
  deriving DecidableEq, Repr

/-- What is wrong with a page. -/
def MarkupError.reason : MarkupError → String
  | .expectedName place => s!"expected name token at {quoted (.ofList (place.take 20))}"
  | .unknownSection name => s!"unknown status keyword {quoted (.ofList name)} in marked section"

/-- Why a page cannot be read, in words. -/
def MarkupError.message (e : MarkupError) : String :=
  "The markup you provided was rejected by the parser. Trying a different parser or a different " ++
    s!"encoding may help.\n\nOriginal error(s) from parser:\n  AssertionError: {e.reason}"

/-- How the text at some place is read. -/
inductive Mode where
  | markup
  /-- Inside an element whose content is text up to its end tag. -/
  | verbatim (name : List Char)
  deriving DecidableEq, Repr

/-- The elements whose content is read as it stands. -/
def verbatimElements : List String := ["script", "style"]

/-- What is read at a `<` or `&`. -/
inductive Piece where
  /-- Tokens, and the text after them. -/
  | found (tokens : List Token) (mode : Mode) (rest : List Char)
  /-- Tokens, and a rest that the scan cannot take further. -/
  | halt (tokens : List Token) (rest : List Char)
  /-- Markup that the text ends within. -/
  | unfinished

/-- The parts of a text before and after its first place where `p` gives what follows that place. -/
def splitAt? (p : List Char → Option (List Char)) : List Char → Option (List Char × List Char)
  | [] => (p []).map ([], ·)
  | c :: r =>
    match p (c :: r) with
    | some rest => some ([], rest)
    | none => (splitAt? p r).map fun (before, rest) => (c :: before, rest)

/-- What follows `signs` at the start of a text, blanks allowed before each sign but the first. -/
def afterSigns? : List Char → List Char → Option (List Char)
  | [], s => some s
  | sign :: signs, s =>
    match s with
    | [] => none
    | c :: r =>
      if c = sign then
        match signs with
        | [] => some r
        | signs => afterSigns? signs (r.dropWhile isBlank)
      else none

/-- What follows the end of a comment. -/
def afterCommentEnd? : List Char → Option (List Char)
  | '-' :: '-' :: r => afterSigns? ['>'] (r.dropWhile isBlank)
  | _ => none

/-- A text up to the first `>`, and the text after it. -/
def untilTagEnd? (s : List Char) : Option (List Char × List Char) :=
  match cut '>' s with
  | (before, some rest) => some (before, rest)
  | (_, none) => none

/-- One special piece of text, if the text that ends it is found. -/
def specialPiece (kind : TextKind) : Option (List Char × List Char) → Piece
  | some (content, rest) => .found [.text kind content] .markup rest
  | none => .unfinished

/-- The characters of the name of a marked section, after its first one. -/
def isSectionNameChar (c : Char) : Bool := c.isAlphanum || c = '-' || c = '_' || c = '.'

/-- How a marked section with a name ends. -/
def sectionEnd? (name : List Char) : Option (List Char) :=
  if ["temp", "cdata", "ignore", "include", "rcdata"].contains (String.ofList name) then
    some [']', ']', '>']
  else if ["if", "else", "endif"].contains (String.ofList name) then some [']', '>']
  else none

/-- The beginning of a marked section that holds characters as they are. -/
def cdataStart : List Char := "cdata[".toList

/-- The token of a marked section. -/
def sectionToken (content : List Char) : Token :=
  if cdataStart.isPrefixOf (content.map Char.toLower) then
    .text .cdata (content.drop cdataStart.length)
  else .text .declaration content

/-- A marked section; `s` is what follows its `<![`. -/
def markedSection (s : List Char) : Except MarkupError Piece :=
  match s with
  | [] => .ok .unfinished
  | c :: _ =>
    if !c.isAlpha then .error (.expectedName ('<' :: '!' :: '[' :: s))
    else
      let name := s.takeWhile isSectionNameChar
      let afterName := s.drop name.length
      let rest := afterName.dropWhile isBlank
      if rest = [] then .ok .unfinished
      else
        match sectionEnd? (name.map Char.toLower) with
        | none => .error (.unknownSection (s.take (s.length - rest.length)))
        | some signs =>
          match splitAt? (afterSigns? signs) s with
          | some (content, rest) => .ok (.found [sectionToken content] .markup rest)
          | none => .ok .unfinished

/-- What a `<!` begins; `s` is what follows it. -/
def declarationPiece (s : List Char) : Except MarkupError Piece :=
  match s with
  | '-' :: '-' :: r => .ok (specialPiece .comment (splitAt? afterCommentEnd? r))
  | '[' :: r => markedSection r
  | s =>
    if String.ofList ((s.take 7).map Char.toLower) = "doctype" then
      .ok (specialPiece .doctype
        ((untilTagEnd? (s.drop 7)).map fun (content, rest) => (content.drop 1, rest)))
    else .ok (specialPiece .comment (untilTagEnd? s))

/-- The characters of the name in an end tag, after its first one. -/
def isEndTagNameChar (c : Char) : Bool :=
  c.isAlphanum || c = '-' || c = '.' || c = ':' || c = '_'

/-- The name of an end tag that holds nothing else, blanks apart, and the text after it; `s` is what
follows its `</`. -/
def cleanEndTag? (s : List Char) : Option (List Char × List Char) :=
  let s := s.dropWhile isBlank
  match s with
  | [] => none
  | c :: _ =>
    if c.isAlpha then
      let name := s.takeWhile isEndTagNameChar
      (afterSigns? ['>'] ((s.drop name.length).dropWhile isBlank)).map (name.map Char.toLower, ·)
    else none

/-- What a `</` begins; `s` is what follows it. -/
def endTagPiece (s : List Char) : Piece :=
  match untilTagEnd? s with
  | none => .unfinished
  | some (content, rest) =>
    match cleanEndTag? s with
    | some (name, rest) => .found [.endTag (.ofList name)] .markup rest
    | none =>
      match content with
      | [] => .found [] .markup rest
      | c :: _ =>
        if c.isAlpha then
          let name := s.takeWhile fun c => !endsTagName c
          .found [.endTag (Text.lower (.ofList name))] .markup rest
        else .found [.text .comment content] .markup rest

/-- What a `<` and a letter begin; `s` is what follows the `<`. -/
def startTagPiece (s : List Char) : Piece :=
  match scanTag s with
  | .unfinished => .unfinished
  | .junk text rest => .found [.text .plain text] .markup rest
  | .tag name attributes closed rest =>
    let mode := if !closed && verbatimElements.contains name then .verbatim name.toList else .markup
    .found [.startTag name attributes closed] mode rest

/-- What a `<` begins; `s` is what follows it. -/
def tagPiece (s : List Char) : Except MarkupError Piece :=
  match s with
  | [] => .ok (.halt [] ['<'])
  | '/' :: r => .ok (endTagPiece r)
  | '?' :: r => .ok (specialPiece .instruction (untilTagEnd? r))
  | '!' :: r => declarationPiece r
  | c :: r =>
    if c.isAlpha then .ok (startTagPiece (c :: r))
    else .ok (.found [.text .plain ['<']] .markup (c :: r))

/-- Markup that the text ends within, read as text: `s` is what follows the `<`. -/
def unfinishedText (s : List Char) : Token × List Char :=
  match cut '>' s with
  | (before, some rest) => (.text .plain ('<' :: before ++ ['>']), rest)
  | (_, none) =>
    let before := s.takeWhile (· != '<')
    if before.length < s.length then (.text .plain ('<' :: before), s.drop before.length)
    else (.text .plain ['<'], s)

/-- The number that the text after `&#` writes: what it stands for and what follows it. A character
has to follow the digits. -/
def numberReference? (s : List Char) : Option (List Char × List Char) :=
  let found (n : Nat) (rest : List Char) : Option (List Char × List Char) :=
    match rest with
    | [] => none
    | c :: _ => if isHexDigit c then none else some (numberText n, dropSemicolon rest)
  match s with
  | [] => none
  | c :: r =>
    if c.isDigit then
      let digits := s.takeWhile Char.isDigit
      found (decimalNumber digits) (s.drop digits.length)
    else if c = 'x' ∨ c = 'X' then
      let digits := r.takeWhile isHexDigit
      if digits = [] then none else found (hexNumber digits) (r.drop digits.length)
    else none

/-- The characters of a name in a reference, after its first one. -/
def isReferenceNameChar (c : Char) : Bool := c.isAlphanum || c = '-' || c = '.'

/-- The name at the start of a text and what follows it. A character that is no letter or digit has
to follow: where the text ends, the name ends before its last sign. -/
def referenceName? (s : List Char) : Option (List Char × List Char) :=
  let name := s.takeWhile isReferenceNameChar
  match s.drop name.length with
  | [] =>
    match dropEndWhile (fun c => c.isAlphanum) name with
    | [] => none
    | start => some (start.dropLast, s.drop (start.length - 1))
  | rest => some (name, rest)

/-- What an `&` begins; `s` is what follows it. The last scan loses the sign before a single letter
that ends the text. -/
def referencePiece (final : Bool) (s : List Char) : Piece :=
  match s with
  | [] => .halt [] ['&']
  | '#' :: r =>
    match numberReference? r with
    | some (text, rest) => .found [.text .plain text] .markup rest
    | none => if r.contains ';' then .halt [.text .plain ['&', '#']] r else .halt [] ('&' :: s)
  | c :: r =>
    if c.isAlpha then
      match referenceName? s with
      | some (name, rest) => .found [.text .plain (nameText name)] .markup (dropSemicolon rest)
      | none => if final && r.isEmpty then .halt [] s else .halt [] ('&' :: s)
    else .found [.text .plain ['&']] .markup s

/-- The token of plain text, if there is any. -/
def plainText (s : List Char) : List Token := if s = [] then [] else [.text .plain s]

/-- What a scan gives: the tokens, how the text after them is read, and that text. -/
structure Scanned where
  tokens : List Token
  mode : Mode
  rest : List Char

/-- The tokens of a text up to the place where the scan can go no further; `steps` bounds the number
of pieces. -/
def scan (final : Bool) : Nat → Mode → List Char → Except MarkupError Scanned
  | 0, mode, s => .ok ⟨[], mode, s⟩
  | _ + 1, mode, [] => .ok ⟨[], mode, []⟩
  | steps + 1, .verbatim name, s =>
    let close? (t : List Char) : Option (List Char) :=
      match t with
      | '<' :: '/' :: t => do
        let (found, rest) ← cleanEndTag? t
        if found = name then some rest else none
      | _ => none
    match splitAt? close? s with
    | none => .ok ⟨[], .verbatim name, s⟩
    | some (content, rest) => do
      let next ← scan final steps .markup rest
      .ok { next with tokens := plainText content ++ .endTag (.ofList name) :: next.tokens }
  | steps + 1, .markup, c :: r =>
    if c != '<' && c != '&' then do
      let text := c :: r.takeWhile fun c => c != '<' && c != '&'
      let next ← scan final steps .markup (r.dropWhile fun c => c != '<' && c != '&')
      .ok { next with tokens := .text .plain text :: next.tokens }
    else do
      match ← if c = '<' then tagPiece r else .ok (referencePiece final r) with
      | .found tokens mode rest =>
        let next ← scan final steps mode rest
        .ok { next with tokens := tokens ++ next.tokens }
      | .halt tokens rest => .ok ⟨tokens, .markup, rest⟩
      | .unfinished =>
        if final then
          let (token, rest) := unfinishedText r
          let next ← scan final steps .markup rest
          .ok { next with tokens := token :: next.tokens }
        else .ok ⟨[], .markup, c :: r⟩

/-- The tokens of a page. -/
def tokens (s : List Char) : Except MarkupError (List Token) := do
  let first ← scan false (s.length + 1) .markup s
  let last ← scan true (first.rest.length + 1) first.mode first.rest
  let tail := if last.mode = .markup then plainText last.rest else []
  .ok (first.tokens ++ last.tokens ++ tail)

end Coursebook.Html
