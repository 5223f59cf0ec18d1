import Coursebook.Text.Blank
import Coursebook.Text.CodeSet

/-!
# Coursebook — elements

The content of an XML document: elements with attributes, and text between them. Comments and
processing instructions have no place in it, and neighbouring text is one piece.

* `Element.preorder` lists an element and everything below it in document order.
* `Element.childrenAt` selects by a path of names, `Element.textWithout` collects text.
-/

namespace Coursebook.Xml

/-- Text, or an element with its attributes in document order and its content. -/
inductive Item where
  | text (s : String)
  | element (name : String) (attributes : List (String × String)) (content : List Item)
  deriving Repr

/-- An element. -/
structure Element where
  /-- The name, in lower case and without its namespace. -/
  name : String
  /-- Names and values, in document order. -/
  attributes : List (String × String) := []
  /-- Text and elements, in document order. -/
  content : List Item := []
  deriving Repr

/-- The element that an item is. -/
def Item.element? : Item → Option Element
  | .text _ => none
  | .element name attributes content => some ⟨name, attributes, content⟩

/-- An element as part of another's content. -/
def Element.item (e : Element) : Item := .element e.name e.attributes e.content

namespace Element

/-- The elements directly below an element. -/
def children (e : Element) : List Element := e.content.filterMap Item.element?

/-- The elements directly below an element that have a name. -/
def childrenNamed (e : Element) (name : String) : List Element :=
  e.children.filter (·.name == name)

/-- The value of an attribute. -/
def attribute? (e : Element) (name : String) : Option String := e.attributes.lookup name

/-- The value of an attribute that is not empty. -/
def filled? (e : Element) (name : String) : Option String :=
  (e.attribute? name).filter (· ≠ "")

/-- The first of several attributes that has a value other than the empty one. -/
def firstFilled? (e : Element) (names : List String) : Option String :=
  names.findSome? e.filled?

end Element

mutual
/-- The elements of an item, outer ones first. -/
def Item.elements : Item → List Element
  | .text _ => []
  | .element name attributes content => ⟨name, attributes, content⟩ :: elementsOf content

/-- The elements of items, in document order. -/
def elementsOf : List Item → List Element
  | [] => []
  | i :: r => i.elements ++ elementsOf r
end

namespace Element

/-- Everything below an element, in document order. -/
def descendants (e : Element) : List Element := elementsOf e.content

/-- The element and everything below it, in document order. -/
def preorder (e : Element) : List Element := e :: e.descendants

/-- Whether there is an element of a name below. -/
def hasDescendant (e : Element) (name : String) : Bool := e.descendants.any (·.name == name)

/-- One step of a path: `.` stays, `*` goes to every child, a name to the children that have it. -/
def step (e : Element) (name : String) : List Element :=
  if name = "." then [e] else if name = "*" then e.children else e.childrenNamed name

/-- The elements that a path of names, separated by `/`, leads to; a path that ends in `/` leads to
all children of its last step. -/
def childrenAt (e : Element) (path : String) : List Element :=
  if path = "" then [] else
    ((Text.splitAll '/' path.toList).map fun n => if n = [] then "*" else String.ofList n).foldl
      (fun found name => found.flatMap (·.step name)) [e]

end Element

mutual
/-- The text of an item, without that of the elements with one of the names `skip`. -/
def Item.textWithout (skip : List String) : Item → List Char
  | .text s => s.toList
  | .element name _ content => if name ∈ skip then [] else textOf skip content

/-- The text of items, without that of the elements with one of the names `skip`. -/
def textOf (skip : List String) : List Item → List Char
  | [] => []
  | i :: r => i.textWithout skip ++ textOf skip r
end

namespace Element

/-- The words of the text in an element, with single spaces between them; what stands in elements
below it with one of the names `skip` does not count. -/
def textWithout (e : Element) (skip : List String) : String :=
  .ofList (Text.collapse (textOf skip e.content))

/-- The words of all text in an element, with single spaces between them. -/
def text (e : Element) : String := e.textWithout []

end Element

end Coursebook.Xml
