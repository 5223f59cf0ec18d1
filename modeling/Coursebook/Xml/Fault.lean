/-!
# Coursebook — faults of XML documents

The ways in which a document is not a well-formed XML document with namespaces, and where.
-/

namespace Coursebook.Xml

/-- What is wrong with a document. -/
inductive Fault where
  | syntaxError
  | noElement
  | invalidToken
  | unclosedToken
  | partialCharacter
  | mismatchedTag
  | duplicateAttribute
  | junkAfterElement
  | parameterReference
  | undefinedEntity
  | recursiveEntity
  | asynchronousEntity
  | invalidCharacterNumber
  | binaryEntity
  | externalEntityInAttribute
  | misplacedDeclaration
  | unknownEncoding
  | wrongEncoding
  | unclosedCdata
  | malformedDeclaration
  | invalidPublicId
  | unboundPrefix
  | undeclaredPrefix
  | reservedXml
  | reservedXmlns
  | reservedNamespace
  /-- An entity that may be declared in a part of the document type that is not read. -/
  | unreadEntity (name : String)
  deriving DecidableEq, Repr

/-- What is wrong, in words. -/
def Fault.message : Fault → String
  | .syntaxError => "syntax error"
  | .noElement => "no element found"
  | .invalidToken => "not well-formed (invalid token)"
  | .unclosedToken => "unclosed token"
  | .partialCharacter => "partial character"
  | .mismatchedTag => "mismatched tag"
  | .duplicateAttribute => "duplicate attribute"
  | .junkAfterElement => "junk after document element"
  | .parameterReference => "illegal parameter entity reference"
  | .undefinedEntity => "undefined entity"
  | .recursiveEntity => "recursive entity reference"
  | .asynchronousEntity => "asynchronous entity"
  | .invalidCharacterNumber => "reference to invalid character number"
  | .binaryEntity => "reference to binary entity"
  | .externalEntityInAttribute => "reference to external entity in attribute"
  | .misplacedDeclaration => "XML or text declaration not at start of entity"
  | .unknownEncoding => "unknown encoding"
  | .wrongEncoding => "encoding specified in XML declaration is incorrect"
  | .unclosedCdata => "unclosed CDATA section"
  | .malformedDeclaration => "XML declaration not well-formed"
  | .invalidPublicId => "illegal character(s) in public id"
  | .unboundPrefix => "unbound prefix"
  | .undeclaredPrefix => "must not undeclare prefix"
  | .reservedXml =>
    "reserved prefix (xml) must not be undeclared or bound to another namespace name"
  | .reservedXmlns => "reserved prefix (xmlns) must not be declared or undeclared"
  | .reservedNamespace => "prefix must not be bound to one of the reserved namespace names"
  | .unreadEntity name => s!"undefined entity &{name};"

/-- Where in a document something stands. -/
structure Position where
  /-- The line, from one. -/
  line : Nat
  /-- The characters before it on the line. -/
  column : Nat
  deriving DecidableEq, Repr

/-- Why a document cannot be read. -/
inductive XmlError where
  /-- The document is not well formed. -/
  | malformed (fault : Fault) (position : Position)
  /-- The declared encoding is not known. -/
  | unknownEncoding (name : String)
  /-- The declared encoding is a codec that gives no text. -/
  | notTextEncoding (name : String)
  /-- The declared encoding takes several octets for a character and is not one of those that every
  reader knows. -/
  | multiOctetEncoding
  deriving DecidableEq, Repr

/-- Why a document cannot be read, in words. -/
def XmlError.message : XmlError → String
  | .malformed fault position =>
    s!"{fault.message}: line {position.line}, column {position.column}"
  | .unknownEncoding name => s!"unknown encoding: {name}"
  | .notTextEncoding name =>
    s!"'{name}' is not a text encoding; use codecs.decode() to handle arbitrary codecs"
  | .multiOctetEncoding => "multi-byte encodings are not supported"

end Coursebook.Xml
