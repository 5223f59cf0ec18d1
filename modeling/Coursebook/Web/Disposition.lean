import Coursebook.Text.AsciiFold
import Coursebook.Text.CodeSet

/-!
# Coursebook — dispositions

How a download tells under which name it is to be kept. A name outside ASCII is given twice, folded
to ASCII and with its octets escaped.
-/

namespace Coursebook.Web

open Coursebook.Text

/-- Whether a character may stand in a value that is not quoted. -/
def isTokenChar (c : Char) : Bool := c.isAlphanum || "!#$%&'*+-.^_`|~".toList.contains c

/-- A value, quoted where it has to be. -/
def headerValue (value : List Char) : List Char :=
  if value ≠ [] ∧ value.all isTokenChar then value
  else '"' :: value.flatMap (fun c => if c = '"' ∨ c = '\\' then ['\\', c] else [c]) ++ ['"']

/-- An octet in capital hexadecimal digits. -/
def hexOctet (b : UInt8) : List Char :=
  let digit (n : Nat) : Char := Char.toUpper (Nat.digitChar n)
  [digit (b.toNat / 16), digit (b.toNat % 16)]

/-- Whether a character stands for itself in an escaped value. -/
def isPlain (c : Char) : Bool := c.isAlphanum || "!#$&+-.^_`|~".toList.contains c

/-- A value with the octets of all characters escaped that do not stand for themselves. -/
def escapedValue (value : List Char) : List Char :=
  value.flatMap fun c =>
    if isPlain c then [c]
    else (String.singleton c).toUTF8.toList.flatMap fun b => '%' :: hexOctet b

/-- The disposition of a download with some name. -/
def disposition (name : String) : String :=
  let value := name.toList
  let shown := String.ofList (headerValue (asciiFold value))
  if value.all (·.toNat < 0x80) then s!"attachment; filename={shown}"
  else s!"attachment; filename={shown}; filename*=UTF-8''{String.ofList (escapedValue value)}"

end Coursebook.Web
