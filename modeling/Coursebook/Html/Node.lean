import Coursebook.Html.Token

/-!
# Coursebook — trees of HTML

A page as a list of nodes: pieces of text of several kinds, and elements.
-/

namespace Coursebook.Html

/-- A node of a page. -/
inductive Node where
  | text (kind : TextKind) (content : List Char)
  | element (name : String) (attributes : List Attribute) (children : List Node)
  deriving Repr

/-- A page: its nodes, in order. -/
abbrev Page := List Node

/-- An element of a page. -/
structure Element where
  name : String
  attributes : List Attribute
  children : List Node
  deriving Repr

namespace Node

/-- The element that a node is. -/
def element? : Node → Option Element
  | .text .. => none
  | .element name attributes children => some ⟨name, attributes, children⟩

end Node

/-- The value of an attribute; of several with one name the last counts. -/
def attributeValue (attributes : List Attribute) (name : String) : Option String :=
  (attributes.reverse.find? (·.1 == name)).map (·.2)

namespace Element

/-- The value of an attribute, empty where there is none. -/
def attributeD (e : Element) (name : String) : String :=
  (attributeValue e.attributes name).getD ""

end Element

mutual
/-- The elements of a node, outer ones first. -/
def Node.elements : Node → List Element
  | .text .. => []
  | .element name attributes children => ⟨name, attributes, children⟩ :: elementsOf children

/-- The elements of nodes, in document order. -/
def elementsOf : List Node → List Element
  | [] => []
  | n :: r => n.elements ++ elementsOf r
end

/-- The elements below an element that have one of the names, in document order. -/
def Element.descendantsNamed (e : Element) (names : List String) : List Element :=
  (elementsOf e.children).filter fun d => names.contains d.name

mutual
/-- A node without the elements that have one of the names. -/
def Node.without (names : List String) : Node → List Node
  | .text kind content => [.text kind content]
  | .element name attributes children =>
    if names.contains name then [] else [.element name attributes (withoutAll names children)]

/-- Nodes without the elements that have one of the names. -/
def withoutAll (names : List String) : List Node → List Node
  | [] => []
  | n :: r => n.without names ++ withoutAll names r
end

end Coursebook.Html
