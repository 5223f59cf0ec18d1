import Coursebook.Xml.Scan

/-!
# Coursebook — declarations of a document type

The document type declaration of an XML document, read for what it tells of general entities and of
attributes: their replacement text, their default values, and whether white space in them counts.
Parameter entities and everything outside the document itself are not read; `Declarations.unread`
says that there is such a part.
-/

namespace Coursebook.Xml

/-- What stands for a reference to a general entity. -/
inductive Entity where
  /-- Replacement text in the document type itself. -/
  | replacement (text : List Char)
  /-- A resource outside the document. -/
  | external
  /-- A resource outside the document that is not XML. -/
  | unparsed

/-- A declared attribute. -/
structure DeclaredAttribute where
  /-- The name of the element it belongs to, with its prefix. -/
  element : List Char
  /-- Its name, with its prefix. -/
  name : List Char
  /-- Whether its value is free text, in which runs of spaces count. -/
  freeText : Bool
  /-- Its default value. -/
  fallback : Option (List Char)

/-- What a document type tells. -/
structure Declarations where
  /-- General entities; of two with the same name the first counts. -/
  entities : List (List Char × Entity) := []
  /-- Attributes, in order of their declaration. -/
  attributes : List DeclaredAttribute := []
  /-- Whether the type has a part that is not read. -/
  unread : Bool := false
  /-- Whether the document says that it stands alone. -/
  standalone : Bool := false
  /-- Whether declarations still count: behind a part that is not read they do so only in a document
  that stands alone. -/
  counting : Bool := true

/-- Whether a reference needs a declaration that has been read. -/
def Declarations.strict (d : Declarations) : Bool := !d.unread || d.standalone

/-- A piece of a document type declaration. -/
inductive Token where
  | space
  | declaration
  | instruction
  | comment
  /-- `<!` and a keyword. -/
  | openDeclaration (keyword : List Char)
  /-- The first start tag. -/
  | startTag
  /-- Text between quotes. -/
  | literal (text : Extent)
  /-- A plain name, or one with a prefix. -/
  | name (text : List Char) (hasPrefix : Bool)
  /-- Name characters that are no name. -/
  | nameToken
  /-- A name and one of the marks `?`, `*`, `+`. -/
  | repeatedName
  /-- `#` and a name. -/
  | hashName (text : List Char)
  | percent
  | parameterReference
  /-- A bracket, parenthesis or other mark that stands for itself. -/
  | mark (c : Char)
  /-- A closing parenthesis, and the mark `?`, `*` or `+` behind it. -/
  | closeGroup (c : Option Char)
  | openSection
  | closeSection

/-- The letters that symbols start with, and the symbols after them. -/
def letters : Input → List Char × Input
  | [] => ([], [])
  | .char c :: r =>
    if c.isAlpha ∨ c = '_' then
      let (n, s) := letters r
      (c :: n, s)
    else ([], .char c :: r)
  | s => ([], s)

/-- A markup declaration, after its `<!`. -/
def declarationToken (start s : Input) : Scan (Token × Input) := do
  let (c, r) ← next start s
  if c = '-' then
    let r ← expect start '-' r
    let r ← comment start r
    .ok (.comment, r)
  else if c = '[' then .ok (.openSection, r)
  else if !(c.isAlpha || c = '_') then fail .invalidToken s
  else
    let (keyword, r) := letters s
    let (d, r') ← next start r
    if isSpace d then .ok (.openDeclaration keyword, r)
    else if d = '%' then
      let (e, _) ← next start r'
      if isSpace e ∨ e = '%' then fail .invalidToken r else .ok (.openDeclaration keyword, r)
    else fail .invalidToken r

/-- The symbols up to a quote. -/
def literalSymbols (start : Input) (quote : Char) : Input → Scan (Input × Input)
  | .char c :: r =>
    if c = quote then .ok ([], r)
    else if isLegal c then do
      let (v, t) ← literalSymbols start quote r
      .ok (.char c :: v, t)
    else fail .invalidToken (.char c :: r)
  | s => do
    let (_, r) ← next start s
    .ok ([], r)

/-- A literal, after the quote that opens it. -/
def literalToken (start : Input) (quote : Char) (s : Input) : Scan (Token × Input) := do
  let (v, r) ← literalSymbols start quote s
  let token := Token.literal ⟨v, r.length + 1⟩
  match r with
  | [] => .ok (token, [])
  | .char c :: _ =>
    if isSpace c ∨ c = '>' ∨ c = '%' ∨ c = '[' then .ok (token, r) else fail .invalidToken r
  | _ => fail .invalidToken r

/-- A reference to a parameter entity, or a percent sign alone, after the sign. -/
def percentToken (start s : Input) : Scan (Token × Input) := do
  let (c, _) ← next start s
  if isSpace c ∨ c = '%' then .ok (.percent, s)
  else
    let (_, r) ← plainName start s
    let r ← expect start ';' r
    .ok (.parameterReference, r)

/-- The end of a name that began with the characters `name`; `named` says that they make a name,
`hasPrefix` that they hold a colon. -/
def nameEnd (start : Input) (name : List Char) (named hasPrefix : Bool) :
    Nat → Input → Scan (Token × Input)
  | 0, _ => fail .unclosedToken start
  | steps + 1, s =>
    let token := if named then Token.name name hasPrefix else .nameToken
    match s with
    | [] => .ok (token, [])
    | .char c :: r =>
      if isNameChar c then
        let (n, r) := nameChars s
        nameEnd start (name ++ n) named hasPrefix steps r
      else if isSpace c ∨ c ∈ ['>', ')', ',', '|', '[', '%'] then .ok (token, s)
      else if c = ':' then
        if named && !hasPrefix then do
          let (d, _) ← next start r
          nameEnd start (name ++ [':']) (isNameChar d) (isNameChar d) steps r
        else nameEnd start (name ++ [':']) false hasPrefix steps r
      else if c ∈ ['?', '*', '+'] ∧ named then .ok (.repeatedName, r)
      else fail .invalidToken s
    | _ => do
      let (_, r) ← next start s
      .ok (token, r)

/-- A closing parenthesis, after it. -/
def closeGroupToken : Input → Scan (Token × Input)
  | [] => .ok (.closeGroup none, [])
  | .char c :: r =>
    if c ∈ ['*', '?', '+'] then .ok (.closeGroup (some c), r)
    else if isSpace c ∨ c ∈ ['>', ',', '|', ')'] then .ok (.closeGroup none, .char c :: r)
    else fail .invalidToken (.char c :: r)
  | s => fail .invalidToken s

/-- A name after `#`. -/
def hashToken (start s : Input) : Scan (Token × Input) := do
  let (n, r) ← plainName start s
  match r with
  | [] => .ok (.hashName n, [])
  | .char c :: _ =>
    if isSpace c ∨ c ∈ [')', '>', '%', '|'] then .ok (.hashName n, r) else fail .invalidToken r
  | _ => fail .invalidToken r

/-- The next piece outside the elements of a document. -/
def token (s : Input) : Scan (Token × Input) := do
  let (c, r) ← next s s
  if c = '"' ∨ c = '\'' then literalToken s c r
  else if c = '<' then
    let (d, r') ← next s r
    if d = '!' then declarationToken s r'
    else if d = '?' then
      match ← processingInstruction s r' with
      | (.declaration, t) => .ok (.declaration, t)
      | (.other, t) => .ok (.instruction, t)
    else if isNameStart d then .ok (.startTag, s)
    else fail .invalidToken r
  else if isSpace c then .ok (.space, skipSpace r)
  else if c = '%' then percentToken s r
  else if c = ']' then
    match r with
    | .char ']' :: .char '>' :: t => .ok (.closeSection, t)
    | [.char ']'] => fail .unclosedToken s
    | _ => .ok (.mark ']', r)
  else if c = ')' then closeGroupToken r
  else if c ∈ [',', '[', '(', '|', '>'] then .ok (.mark c, r)
  else if c = '#' then hashToken s r
  else if isNameStart c then nameEnd s [c] true false (s.length + 1) r
  else if isNameChar c ∨ c = ':' then nameEnd s [c] false false (s.length + 1) r
  else fail .invalidToken s

/-- The next piece that is not white space, and where it starts. -/
def solidToken (s : Input) : Scan (Input × Token × Input) := do
  match skipSpace s with
  | [] => fail .noElement []
  | r =>
    let (t, r') ← token r
    .ok (r, t, r')

/-- A piece that cannot stand where it does. -/
def refuse {α : Type} (place : Input) : Token → Scan α
  | .parameterReference => fail .parameterReference place
  | .declaration => fail .misplacedDeclaration place
  | _ => fail .syntaxError place

/-- A plain name. -/
def nameToken (s : Input) : Scan (List Char × Input) := do
  match ← solidToken s with
  | (_, .name n false, r) => .ok (n, r)
  | (place, t, _) => refuse place t

/-- A name with or without a prefix. -/
def anyNameToken (s : Input) : Scan (List Char × Input) := do
  match ← solidToken s with
  | (_, .name n _, r) => .ok (n, r)
  | (place, t, _) => refuse place t

/-- A literal, and where it starts. -/
def literal (s : Input) : Scan (Input × Extent × Input) := do
  match ← solidToken s with
  | (place, .literal text, r) => .ok (place, text, r)
  | (place, t, _) => refuse place t

/-- The end of a declaration. -/
def closeDeclaration (s : Input) : Scan Input := do
  match ← solidToken s with
  | (_, .mark '>', r) => .ok r
  | (place, t, _) => refuse place t

/-- The characters that a public identifier may hold. -/
def isPublicIdChar (c : Char) : Bool :=
  c.isAlphanum || c ∈ " \n\r-'()+,./:=?;!*#@$_%".toList

/-- Checks a public identifier. -/
def publicId (text : Extent) : Scan Unit :=
  go text.symbols
where
  /-- Checks the symbols that are left. -/
  go : Input → Scan Unit
    | .char c :: r =>
      if isPublicIdChar c then go r else .error ⟨.invalidPublicId, r.length + 1 + text.after⟩
    | _ => .ok ()

/-- The place of a symbol of a literal: that of the whole document behind it. -/
def Extent.left (text : Extent) (s : Input) : Nat := s.length + text.after

/-- A fault inside a literal that a shorter extent shows: what ends with the literal is no token. -/
def Extent.lift {α : Type} (text : Extent) (result : Scan α) : Scan α :=
  match result with
  | .error ⟨.unclosedToken, left⟩ => .error ⟨.invalidToken, left + text.after⟩
  | .error ⟨fault, left⟩ => .error ⟨fault, left + text.after⟩
  | .ok a => .ok a

/-- The replacement text that a literal gives an entity: character references are replaced, entity
references kept. -/
def entityText (text : Extent) : Nat → Input → Scan (List Char)
  | 0, _ => .ok []
  | steps + 1, s =>
    match s with
    | [] => .ok []
    | .char '&' :: r => do
      match ← text.lift (reference s r) with
      | (.entity n, t) =>
        let v ← entityText text steps t
        .ok ('&' :: n ++ ';' :: v)
      | (.character (some c), t) =>
        let v ← entityText text steps t
        .ok (c :: v)
      | (.character none, _) => .error ⟨.invalidCharacterNumber, text.left s⟩
    | .char '%' :: r => do
      match ← text.lift (percentToken s r) with
      | (.parameterReference, _) => .error ⟨.parameterReference, text.left s⟩
      | _ => .error ⟨.invalidToken, text.left r⟩
    | .char '\r' :: .char '\n' :: r => do .ok ('\n' :: (← entityText text steps r))
    | .char '\r' :: r => do .ok ('\n' :: (← entityText text steps r))
    | .char c :: r => do .ok (c :: (← entityText text steps r))
    | _ => .ok []

/-- Where an attribute value stands: in the document itself, or in replacement text, whose faults
are those of the place given. -/
inductive Scope where
  | document (text : Extent)
  | replacement (left : Nat)

/-- The place of a fault at a symbol. -/
def Scope.left : Scope → Input → Nat
  | .document text, s => text.left s
  | .replacement left, _ => left

/-- The names of the predefined entities. -/
def predefined : List Char → Option Char
  | ['l', 't'] => some '<'
  | ['g', 't'] => some '>'
  | ['a', 'm', 'p'] => some '&'
  | ['q', 'u', 'o', 't'] => some '"'
  | ['a', 'p', 'o', 's'] => some '\''
  | _ => none

/-- Replaces the references of an attribute value and each piece of white space by a space. `start`
is the place of the tag or literal that holds the value, `open_` the entities being replaced. -/
def attributeText (d : Declarations) (start : Nat) :
    Nat → List (List Char) → Scope → Input → Scan (List (Char × Bool))
  | 0, _, _, _ => .error ⟨.recursiveEntity, start⟩
  | steps + 1, open_, scope, s =>
    match s with
    | [] => .ok []
    | .char '&' :: r =>
      match reference s r with
      | .error ⟨fault, left⟩ =>
        let fault := if fault = .unclosedToken then .invalidToken else fault
        match scope with
        | .document text => .error ⟨fault, left + text.after⟩
        | .replacement place => .error ⟨fault, place⟩
      | .ok (.character (some c), t) => do
        .ok ((c, c = ' ') :: (← attributeText d start steps open_ scope t))
      | .ok (.character none, _) => .error ⟨.invalidCharacterNumber, scope.left s⟩
      | .ok (.entity n, t) =>
        match predefined n with
        | some c => do .ok ((c, false) :: (← attributeText d start steps open_ scope t))
        | none =>
          match d.entities.lookup n with
          | none =>
            if d.strict then .error ⟨.undefinedEntity, start⟩
            else attributeText d start steps open_ scope t
          | some entity =>
            if n ∈ open_ then .error ⟨.recursiveEntity, start⟩
            else match entity with
              | .unparsed => .error ⟨.binaryEntity, scope.left s⟩
              | .external => .error ⟨.externalEntityInAttribute, scope.left s⟩
              | .replacement text => do
                let v ← attributeText d start steps (n :: open_) (.replacement start)
                  (text.map .char)
                .ok (v ++ (← attributeText d start steps open_ scope t))
    | .char '<' :: _ => .error ⟨.invalidToken, scope.left s⟩
    | .char '\r' :: .char '\n' :: r => do
      .ok ((' ', true) :: (← attributeText d start steps open_ scope r))
    | .char c :: r => do
      let v ← attributeText d start steps open_ scope r
      .ok ((if isSpace c then (' ', true) else (c, false)) :: v)
    | _ => .ok []

/-- The characters of a value, every run of spaces written once and none at the ends. -/
def squeezeSpaces (v : List (Char × Bool)) : List Char :=
  let kept := v.foldl (fun out (c, space) =>
    if space && (match out with | [] => true | d :: _ => d = ' ') then out else c :: out) []
  (match kept with
    | ' ' :: r => r
    | r => r).reverse

/-- The symbols that replacing references in a text of some length may take. -/
def Declarations.weight (d : Declarations) : Nat :=
  d.entities.foldl (fun n (_, e) => match e with | .replacement t => n + t.length + 1 | _ => n) 1

/-- The value of an attribute. -/
def attributeValue (d : Declarations) (start : Nat) (freeText : Bool) (text : Extent) :
    Scan (List Char) := do
  let v ← attributeText d start (text.symbols.length + d.weight + 1) [] (.document text)
    text.symbols
  .ok (if freeText then v.map (·.1) else squeezeSpaces v)

/-- What an external identifier leads to: its end, and whether it is there. -/
def externalId (s : Input) (isPublic : Bool) : Scan Input := do
  if isPublic then
    let (_, id, r) ← literal s
    publicId id
    let (_, _, r) ← literal r
    .ok r
  else
    let (_, _, r) ← literal s
    .ok r

/-- Text as characters, for comparison with keywords. -/
def isWord (n : List Char) (keyword : String) : Bool := n == keyword.toList

/-- An entity declaration, after its keyword. -/
def entityDeclaration (d : Declarations) (s : Input) : Scan (Declarations × Input) := do
  match ← solidToken s with
  | (_, .percent, r) =>
    let (_, r) ← nameToken r
    match ← solidToken r with
    | (_, .literal text, r) =>
      if d.counting then discard <| entityText text (text.symbols.length + 1) text.symbols
      let r ← closeDeclaration r
      .ok (d, r)
    | (place, .name n hasPrefix, r) =>
      if hasPrefix || !(isWord n "SYSTEM" || isWord n "PUBLIC") then fail .syntaxError place
      else
        let r ← externalId r (isWord n "PUBLIC")
        let r ← closeDeclaration r
        .ok (d, r)
    | (place, t, _) => refuse place t
  | (_, .name n false, r) =>
    let declare := fun (e : Entity) =>
      if d.counting && (predefined n).isNone && (d.entities.lookup n).isNone then
        { d with entities := d.entities ++ [(n, e)] }
      else d
    match ← solidToken r with
    | (_, .literal text, r) =>
      if d.counting then
        let v ← entityText text (text.symbols.length + 1) text.symbols
        let r ← closeDeclaration r
        .ok (declare (.replacement v), r)
      else
        let r ← closeDeclaration r
        .ok (d, r)
    | (place, .name k hasPrefix, r) =>
      if hasPrefix || !(isWord k "SYSTEM" || isWord k "PUBLIC") then fail .syntaxError place
      else
        let r ← externalId r (isWord k "PUBLIC")
        match ← solidToken r with
        | (_, .mark '>', r) => .ok (declare .external, r)
        | (place, .name k hasPrefix, r) =>
          if hasPrefix || !isWord k "NDATA" then fail .syntaxError place
          else
            let (_, r) ← nameToken r
            let r ← closeDeclaration r
            .ok (declare .unparsed, r)
        | (place, t, _) => refuse place t
    | (place, t, _) => refuse place t
  | (place, t, _) => refuse place t

/-- A notation declaration, after its keyword. -/
def notationDeclaration (s : Input) : Scan Input := do
  let (_, r) ← nameToken s
  match ← solidToken r with
  | (place, .name k false, r) =>
    if isWord k "SYSTEM" then
      let (_, _, r) ← literal r
      closeDeclaration r
    else if isWord k "PUBLIC" then
      let (_, id, r) ← literal r
      publicId id
      match ← solidToken r with
      | (_, .mark '>', r) => .ok r
      | (_, .literal _, r) => closeDeclaration r
      | (place, t, _) => refuse place t
    else fail .syntaxError place
  | (place, t, _) => refuse place t

/-- The alternatives of an enumerated type, after its opening parenthesis; `names` says that they
have to be names. -/
def enumeration (names : Bool) : Nat → Input → Scan Input
  | 0, s => fail .syntaxError s
  | steps + 1, s => do
    let r ← do
      match ← solidToken s with
      | (place, .name _ hasPrefix, r) =>
        if names && hasPrefix then fail .syntaxError place else .ok r
      | (place, .nameToken, r) => if names then fail .syntaxError place else .ok r
      | (place, t, _) => refuse place t
    match ← solidToken r with
    | (_, .closeGroup none, r) => .ok r
    | (_, .mark '|', r) => enumeration names steps r
    | (place, t, _) => refuse place t

/-- The type of an attribute: whether its value is free text, and whether it identifies its
element. -/
def attributeType (s : Input) : Scan (Bool × Bool × Input) := do
  match ← solidToken s with
  | (_, .mark '(', r) => do
    let r ← enumeration false (r.length + 1) r
    .ok (false, false, r)
  | (place, .name k hasPrefix, r) =>
    if hasPrefix then fail .syntaxError place
    else if isWord k "CDATA" then .ok (true, false, r)
    else if isWord k "ID" then .ok (false, true, r)
    else if k ∈ ["IDREF", "IDREFS", "ENTITY", "ENTITIES", "NMTOKEN", "NMTOKENS"].map String.toList then
      .ok (false, false, r)
    else if isWord k "NOTATION" then
      match ← solidToken r with
      | (_, .mark '(', r) =>
        let r ← enumeration true (r.length + 1) r
        .ok (false, false, r)
      | (place, t, _) => refuse place t
    else fail .syntaxError place
  | (place, t, _) => refuse place t

/-- Declares an attribute. One with a default value, or one that identifies its element, does not
replace an earlier one. -/
def Declarations.addAttribute (d : Declarations) (a : DeclaredAttribute) (identifies : Bool) :
    Declarations :=
  if !d.counting then d
  else if (a.fallback.isSome || identifies) &&
      d.attributes.any (fun b => b.element == a.element && b.name == a.name) then d
  else { d with attributes := d.attributes ++ [a] }

/-- The default value of an attribute, if the declarations still count. -/
def fallbackValue (d : Declarations) (place : Input) (freeText : Bool) (text : Extent) :
    Scan (Option (List Char)) :=
  if d.counting then some <$> attributeValue d place.length freeText text else .ok none

/-- The attributes of an attribute list, after the name of its element. -/
def attributeList (element : List Char) : Nat → Declarations → Input → Scan (Declarations × Input)
  | 0, _, s => fail .syntaxError s
  | steps + 1, d, s => do
    match ← solidToken s with
    | (_, .mark '>', r) => .ok (d, r)
    | (_, .name n _, r) =>
      let (freeText, identifies, r) ← attributeType r
      match ← solidToken r with
      | (place, .hashName k, r) =>
        if isWord k "IMPLIED" || isWord k "REQUIRED" then
          attributeList element steps
            (d.addAttribute ⟨element, n, freeText, none⟩ identifies) r
        else if isWord k "FIXED" then
          let (place, text, r) ← literal r
          let v ← fallbackValue d place freeText text
          attributeList element steps (d.addAttribute ⟨element, n, freeText, v⟩ false) r
        else fail .syntaxError place
      | (place, .literal text, r) =>
        let v ← fallbackValue d place freeText text
        attributeList element steps (d.addAttribute ⟨element, n, freeText, v⟩ false) r
      | (place, t, _) => refuse place t
    | (place, t, _) => refuse place t

/-- The groups of a content model. For each group that is open there is the mark between its members,
once one has been read; a flag says whether a member has to follow. -/
def contentGroups : Nat → List (Option Char) → Bool → Input → Scan Input
  | 0, _, _, s => fail .syntaxError s
  | steps + 1, connectors, true, s => do
    match ← solidToken s with
    | (_, .mark '(', r) => contentGroups steps (none :: connectors) true r
    | (_, .name _ _, r) => contentGroups steps connectors false r
    | (_, .repeatedName, r) => contentGroups steps connectors false r
    | (place, t, _) => refuse place t
  | steps + 1, connectors, false, s => do
    match ← solidToken s with
    | (_, .closeGroup _, r) =>
      match connectors with
      | _ :: c :: rest => contentGroups steps (c :: rest) false r
      | _ => .ok r
    | (place, .mark c, r) =>
      if c = ',' ∨ c = '|' then
        match connectors with
        | some d :: _ => if c = d then contentGroups steps connectors true r else fail .syntaxError place
        | _ :: rest => contentGroups steps (some c :: rest) true r
        | [] => fail .syntaxError place
      else fail .syntaxError place
    | (place, t, _) => refuse place t

/-- The names of a mixed content model, after `#PCDATA`; `named` says that there has been one. -/
def mixedContent : Nat → Bool → Input → Scan Input
  | 0, _, s => fail .syntaxError s
  | steps + 1, named, s => do
    match ← solidToken s with
    | (_, .closeGroup (some '*'), r) => .ok r
    | (place, .closeGroup none, r) => if named then fail .syntaxError place else .ok r
    | (_, .mark '|', r) =>
      let (_, r) ← anyNameToken r
      mixedContent steps true r
    | (place, t, _) => refuse place t

/-- An element declaration, after its keyword. -/
def elementDeclaration (s : Input) : Scan Input := do
  let (_, r) ← anyNameToken s
  match ← solidToken r with
  | (place, .name k hasPrefix, r) =>
    if !hasPrefix && (isWord k "EMPTY" || isWord k "ANY") then closeDeclaration r
    else fail .syntaxError place
  | (_, .mark '(', r) =>
    match ← solidToken r with
    | (place, .hashName k, t) =>
      if isWord k "PCDATA" then
        let t ← mixedContent (t.length + 1) false t
        closeDeclaration t
      else fail .syntaxError place
    | _ =>
      let r ← contentGroups (r.length + 1) [none] true r
      closeDeclaration r
  | (place, t, _) => refuse place t

/-- The declarations inside a document type, up to its closing bracket. -/
def internalDeclarations : Nat → Declarations → Input → Scan (Declarations × Input)
  | 0, _, s => fail .syntaxError s
  | steps + 1, d, s => do
    match ← solidToken s with
    | (_, .mark ']', r) => .ok (d, r)
    | (_, .comment, r) => internalDeclarations steps d r
    | (_, .instruction, r) => internalDeclarations steps d r
    | (_, .parameterReference, r) =>
      internalDeclarations steps { d with unread := true, counting := d.standalone } r
    | (place, .openDeclaration k, r) =>
      if isWord k "ENTITY" then
        let (d, r) ← entityDeclaration d r
        internalDeclarations steps d r
      else if isWord k "ATTLIST" then
        let (element, r) ← anyNameToken r
        let (d, r) ← attributeList element (r.length + 1) d r
        internalDeclarations steps d r
      else if isWord k "ELEMENT" then
        let r ← elementDeclaration r
        internalDeclarations steps d r
      else if isWord k "NOTATION" then
        let r ← notationDeclaration r
        internalDeclarations steps d r
      else fail .syntaxError place
    | (place, t, _) => refuse place t

/-- The end of a document type declaration, perhaps after declarations inside it. -/
def documentTypeEnd (d : Declarations) (s : Input) : Scan (Declarations × Input) := do
  match ← solidToken s with
  | (_, .mark '>', r) => .ok (d, r)
  | (_, .mark '[', r) =>
    let (d, r) ← internalDeclarations (r.length + 1) d r
    let r ← closeDeclaration r
    .ok (d, r)
  | (place, t, _) => refuse place t

/-- A document type declaration, after its keyword. -/
def documentType (d : Declarations) (s : Input) : Scan (Declarations × Input) := do
  let (_, r) ← anyNameToken s
  match ← solidToken r with
  | (place, .name k hasPrefix, r) =>
    if hasPrefix || !(isWord k "SYSTEM" || isWord k "PUBLIC") then fail .syntaxError place
    else
      let r ← externalId r (isWord k "PUBLIC")
      documentTypeEnd { d with unread := true } r
  | _ => documentTypeEnd d r

end Coursebook.Xml
