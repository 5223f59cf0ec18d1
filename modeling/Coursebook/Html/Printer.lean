import Coursebook.Html.Tree

/-!
# Coursebook — writing HTML

The written form of a tree. Signs of markup in text and in values are written as references, and
attributes come in the order of their names.
-/

namespace Coursebook.Html

/-- A character of text or of a value as it is written. -/
def escapeChar : Char → List Char
  | '&' => "&amp;".toList
  | '<' => "&lt;".toList
  | '>' => "&gt;".toList
  | c => [c]

/-- A text as it is written. -/
def escapeText (s : List Char) : List Char := s.flatMap escapeChar

/-- A value between quotes: double ones, or single ones around a value with double quotes. -/
def quoteValue (s : List Char) : List Char :=
  if !s.contains '"' then '"' :: s ++ ['"']
  else if !s.contains '\'' then '\'' :: s ++ ['\'']
  else '"' :: s.flatMap (fun c => if c = '"' then "&quot;".toList else [c]) ++ ['"']

/-- The written form of an attribute. -/
def writeAttribute (a : Attribute) : List Char :=
  ' ' :: a.1.toList ++ '=' :: quoteValue (escapeText a.2.toList)

/-- The attributes that count, in the order of their names. -/
def sortedAttributes (attributes : List Attribute) : List Attribute :=
  let names := (attributes.map (·.1)).eraseDups.mergeSort (fun a b => decide (a ≤ b))
  names.map fun name => (name, (attributeValue attributes name).getD "")

/-- The written form of a piece of text. -/
def writeText : TextKind → List Char → List Char
  | .plain, s => escapeText s
  | .comment, s => "<!--".toList ++ s ++ "-->".toList
  | .doctype, s => "<!DOCTYPE ".toList ++ s ++ ">\n".toList
  | .cdata, s => "<![CDATA[".toList ++ s ++ "]]>".toList
  | .instruction, s => "<?".toList ++ s ++ ">".toList
  | .declaration, s => "<?".toList ++ s ++ "?>".toList

mutual
/-- The written form of a node. -/
def Node.render : Node → List Char
  | .text kind s => writeText kind s
  | .element name attributes children =>
    let start := '<' :: name.toList ++ (sortedAttributes attributes).flatMap writeAttribute
    if children.isEmpty && voidElements.contains name then start ++ "/>".toList
    else start ++ '>' :: renderAll children ++ "</".toList ++ name.toList ++ ['>']

/-- The written form of nodes. -/
def renderAll : List Node → List Char
  | [] => []
  | n :: r => n.render ++ renderAll r
end

end Coursebook.Html
