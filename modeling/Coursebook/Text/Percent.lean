import Coursebook.Text.CodeSet
import Coursebook.Text.Utf8

/-!
# Coursebook — percent escapes

`%` and two hexadecimal digits stand for an octet, and neighbouring octets for the text they write
in UTF-8. A `%` without two digits stands for itself, and so does a character outside ASCII, which
also ends the octets before it.
-/

namespace Coursebook.Text

/-- The octets of an ASCII text, escapes replaced. -/
def percentOctets : List Char → List UInt8
  | [] => []
  | '%' :: a :: b :: r =>
    match hexDigit? a, hexDigit? b with
    | some x, some y => UInt8.ofNat (16 * x + y) :: percentOctets r
    | _, _ => 0x25 :: percentOctets (a :: b :: r)
  | c :: r => UInt8.ofNat c.toNat :: percentOctets r

/-- Decodes the escapes of a text of which the ASCII characters `run` have been read, last first. -/
def percentDecodeAfter (run : List Char) : List Char → List Char
  | [] => utf8DecodeLossy (percentOctets run.reverse)
  | c :: r =>
    if c.toNat < 0x80 then percentDecodeAfter (c :: run) r
    else utf8DecodeLossy (percentOctets run.reverse) ++ c :: percentDecodeAfter [] r

/-- The text with its escapes decoded. -/
def percentDecode (s : List Char) : List Char := percentDecodeAfter [] s

end Coursebook.Text
