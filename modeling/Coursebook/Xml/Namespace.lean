import Coursebook.Xml.Declaration

/-!
# Coursebook — names and attributes of elements

From a start tag as it is written to an element's name and attributes: default values are added,
namespace declarations taken out, and every prefix replaced by its namespace. Such a name is written
with the namespace in braces before it.
-/

namespace Coursebook.Xml

/-- The namespaces in scope, innermost first; the default namespace has the prefix `[]`, and an
empty namespace is none. -/
abbrev Namespaces := List (List Char × List Char)

/-- The namespace of the prefix `xml`. -/
def xmlNamespace : List Char := "http://www.w3.org/XML/1998/namespace".toList

/-- The namespace of the prefix `xmlns`. -/
def xmlnsNamespace : List Char := "http://www.w3.org/2000/xmlns/".toList

/-- The namespaces of a document from its start. -/
def Namespaces.initial : Namespaces := [("xml".toList, xmlNamespace)]

/-- The prefix of a name, if it has one, and the rest. -/
def splitPrefix (name : List Char) : Option (List Char) × List Char :=
  match Text.cut ':' name with
  | (p, some n) => (some p, n)
  | (n, none) => (none, n)

/-- The prefix that an attribute declares a namespace for. -/
def declaredPrefix? (name : List Char) : Option (List Char) :=
  match splitPrefix name with
  | (some p, n) => if p = "xmlns".toList then some n else none
  | (none, n) => if n = "xmlns".toList then some [] else none

/-- Declares a namespace. -/
def Namespaces.declare (ns : Namespaces) (p uri : List Char) : Except Fault Namespaces :=
  if uri = [] ∧ p ≠ [] then .error .undeclaredPrefix
  else if p = "xmlns".toList then .error .reservedXmlns
  else if uri.contains '}' then .error .syntaxError
  else if p = "xml".toList ∧ uri ≠ xmlNamespace then .error .reservedXml
  else if p ≠ "xml".toList ∧ uri = xmlNamespace then .error .reservedNamespace
  else if uri = xmlnsNamespace then .error .reservedNamespace
  else .ok ((p, uri) :: ns)

/-- A name with its namespace. -/
def qualified (uri name : List Char) : List Char := '{' :: uri ++ '}' :: name

/-- An attribute on its way from the tag to the element. -/
structure OpenAttribute where
  /-- The name with its prefix. -/
  name : List Char
  value : List Char

/-- Reads the values of attributes and the namespaces they declare. `start` is the place of the tag,
`inside` tells that it stands in replacement text, whose faults all have the place of the tag. -/
def readAttributes (d : Declarations) (element : List Char) (start : Nat) (inside : Bool) :
    List (List Char) → Namespaces → List WrittenAttribute →
    Scan (List OpenAttribute × Namespaces × List (List Char))
  | seen, ns, [] => .ok ([], ns, seen)
  | seen, ns, a :: r => do
    if a.name ∈ seen then
      throw ⟨.duplicateAttribute, if inside then start else a.place.length⟩
    let freeText :=
      match d.attributes.find? fun b => b.element == element && b.name == a.name with
      | some b => b.freeText
      | none => true
    let value ←
      match attributeValue d start freeText a.value with
      | .error ⟨fault, left⟩ => .error ⟨fault, if inside then start else left⟩
      | .ok v => .ok v
    match declaredPrefix? a.name with
    | some p =>
      match ns.declare p value with
      | .error fault => .error ⟨fault, start⟩
      | .ok ns => readAttributes d element start inside (a.name :: seen) ns r
    | none =>
      let (as, ns, seen) ← readAttributes d element start inside (a.name :: seen) ns r
      .ok (⟨a.name, value⟩ :: as, ns, seen)

/-- Adds the default values of attributes that a tag does not give. -/
def addFallbacks (start : Nat) :
    List (List Char) → Namespaces → List DeclaredAttribute → Scan (List OpenAttribute × Namespaces)
  | _, ns, [] => .ok ([], ns)
  | seen, ns, a :: r =>
    match a.fallback with
    | none => addFallbacks start seen ns r
    | some value =>
      if a.name ∈ seen then addFallbacks start seen ns r
      else match declaredPrefix? a.name with
        | some p =>
          match ns.declare p value with
          | .error fault => .error ⟨fault, start⟩
          | .ok ns => addFallbacks start (a.name :: seen) ns r
        | none => do
          let (as, ns) ← addFallbacks start (a.name :: seen) ns r
          .ok (⟨a.name, value⟩ :: as, ns)

/-- Replaces the prefixes of attribute names; an attribute without one has no namespace. -/
def qualifyAttributes (start : Nat) (ns : Namespaces) :
    List (List Char) → List OpenAttribute → Scan (List (String × String))
  | _, [] => .ok []
  | seen, a :: r =>
    match splitPrefix a.name with
    | (none, n) => do
      .ok ((.ofList n, .ofList a.value) :: (← qualifyAttributes start ns seen r))
    | (some p, n) =>
      match ns.lookup p with
      | none => .error ⟨.unboundPrefix, start⟩
      | some uri =>
        let name := qualified uri n
        if name ∈ seen then .error ⟨.duplicateAttribute, start⟩
        else do
          .ok ((.ofList name, .ofList a.value) :: (← qualifyAttributes start ns (name :: seen) r))

/-- The name of an element without its namespace; its prefix has to have one. -/
def elementName (start : Nat) (ns : Namespaces) (name : List Char) : Scan (List Char) :=
  match splitPrefix name with
  | (none, n) => .ok n
  | (some p, n) => if (ns.lookup p).isNone then .error ⟨.unboundPrefix, start⟩ else .ok n

/-- Name, attributes and namespaces of the element that a start tag opens. -/
def WrittenTag.resolve (d : Declarations) (start : Nat) (inside : Bool) (ns : Namespaces)
    (tag : WrittenTag) : Scan (String × List (String × String) × Namespaces) := do
  let (own, ns, seen) ← readAttributes d tag.name start inside [] ns tag.attributes
  let (added, ns) ← addFallbacks start seen ns (d.attributes.filter (·.element == tag.name))
  let attributes ← qualifyAttributes start ns [] (own ++ added)
  let name ← elementName start ns tag.name
  .ok (Text.lower (.ofList name), attributes, ns)

end Coursebook.Xml
