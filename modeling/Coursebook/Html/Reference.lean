import Coursebook.Html.NamedText

/-!
# Coursebook — character references of HTML

What a reference to a character stands for. A number in the range of the C1 controls means the
character at that place of windows-1252, and a number that no character has means U+FFFD.

* `numberText` is the meaning of a number in running text.
* `decodeValue` resolves the references in an attribute value. There a name without a semicolon
  counts if it may stand without one, also where more letters follow it.
-/

namespace Coursebook.Html

open Coursebook.Text

/-- What the numbers from 0x80 to 0x9f stand for. -/
def controlNumbers : List Nat :=
  [0x20ac, 0x81, 0x201a, 0x192, 0x201e, 0x2026, 0x2020, 0x2021, 0x2c6, 0x2030, 0x160, 0x2039, 0x152,
    0x8d, 0x17d, 0x8f, 0x90, 0x2018, 0x2019, 0x201c, 0x201d, 0x2022, 0x2013, 0x2014, 0x2dc, 0x2122,
    0x161, 0x203a, 0x153, 0x9d, 0x17e, 0x178]

/-- The character for numbers that no character has. -/
def unknownCharacter : Char := Char.ofNat 0xfffd

/-- The character that a number stands for. -/
def numberChar (n : Nat) : Char :=
  if n = 0 ∨ (0xd800 ≤ n ∧ n ≤ 0xdfff) ∨ 0x10ffff < n then unknownCharacter
  else if 0x80 ≤ n ∧ n ≤ 0x9f then Char.ofNat (controlNumbers.getD (n - 0x80) n)
  else Char.ofNat n

/-- Whether a number belongs to a control character or to a code point that is set aside, which
count for nothing in an attribute value. -/
def isSilentNumber (n : Nat) : Bool :=
  (1 ≤ n && n ≤ 8) || n == 0xb || (0xe ≤ n && n ≤ 0x1f) || n == 0x7f || (0xfdd0 ≤ n && n ≤ 0xfdef) ||
    (0xfffe ≤ n % 0x10000 && n ≤ 0x10ffff)

/-- What a number stands for in an attribute value. -/
def valueNumberText (n : Nat) : List Char := if isSilentNumber n then [] else [numberChar n]

/-- What a number stands for in running text. -/
def numberText (n : Nat) : List Char := [numberChar n]

/-- What a name stands for in running text; a name that nothing has stands for itself. -/
def nameText (name : List Char) : List Char := (namedText? name).getD ('&' :: name)

/-- The number that decimal digits write. -/
def decimalNumber (digits : List Char) : Nat :=
  digits.foldl (fun n d => 10 * n + (hexDigit? d).getD 0) 0

/-- Whether a character is a hexadecimal digit. -/
def isHexDigit (c : Char) : Bool := (hexDigit? c).isSome

/-- A resolved reference: what it stands for, and the text after it. -/
structure Resolved where
  text : List Char
  rest : List Char

/-- The text without the semicolon it may start with. -/
def dropSemicolon : List Char → List Char
  | ';' :: r => r
  | s => s

/-- The characters that end a name in an attribute value. -/
def endsName (c : Char) : Bool :=
  c = '\t' || c = '\n' || c = '\x0c' || c = ' ' || c = '<' || c = '&' || c = '#' || c = ';'

/-- What a name without semicolon stands for: the longest beginning of two or more letters that is
a shorthand is replaced. -/
def shorthandStart (name : List Char) : List Char :=
  ((List.range name.length).reverse.findSome? fun n =>
    if 2 ≤ n then (shorthandText? (name.take n)).map (· ++ name.drop n) else none).getD ('&' :: name)

/-- The reference in an attribute value, after its ampersand. -/
def valueReference? (s : List Char) : Option Resolved :=
  match s with
  | '#' :: r =>
    let digits := r.takeWhile Char.isDigit
    if digits = [] then
      match r with
      | x :: r =>
        let digits := r.takeWhile isHexDigit
        if (x = 'x' ∨ x = 'X') ∧ digits ≠ [] then
          some ⟨valueNumberText (hexNumber digits), dropSemicolon (r.drop digits.length)⟩
        else none
      | [] => none
    else some ⟨valueNumberText (decimalNumber digits), dropSemicolon (r.drop digits.length)⟩
  | s =>
    let name := (s.takeWhile fun c => !endsName c).take 32
    if name = [] then none
    else
      match s.drop name.length with
      | ';' :: r => some ⟨(namedText? name).getD (shorthandStart (name ++ [';'])), r⟩
      | r => some ⟨(shorthandText? name).getD (shorthandStart name), r⟩

/-- Resolves the references of an attribute value, after `skip` characters that belong to one
already resolved. -/
def decodeFrom : Nat → List Char → List Char
  | _, [] => []
  | skip + 1, _ :: r => decodeFrom skip r
  | 0, c :: r =>
    match if c = '&' then valueReference? r else none with
    | some found => found.text ++ decodeFrom (r.length - found.rest.length) r
    | none => c :: decodeFrom 0 r

/-- An attribute value with its references resolved. -/
def decodeValue (s : List Char) : List Char := decodeFrom 0 s

end Coursebook.Html
