import Coursebook.Xml.CodePage

/-!
# Coursebook — from octets to characters of a document

The octets of a document become symbols: characters, or a mark where the octets stop making sense.
Nothing behind such a mark is ever read. The first octets tell the encoding: a byte order mark, or
a zero octet beside the first character for UTF-16, else UTF-8 until a declaration names another.
-/

namespace Coursebook.Xml

/-- One symbol of a document. -/
inductive Symbol where
  /-- A character. -/
  | char (c : Char)
  /-- Octets that stand for no character. -/
  | malformed
  /-- The octets end within a character. -/
  | cutShort
  /-- The octets end before it can be told what they are. -/
  | undecided
  deriving DecidableEq, Repr

/-- Names in a document are told apart by their characters. -/
instance lawfulBEqName : LawfulBEq (List Char) := inferInstance

/-- The encodings of a document. -/
inductive Encoding where
  | utf8
  /-- UTF-16, the more significant octet first or last. -/
  | utf16 (bigEndian : Bool)
  /-- One octet for a character; the characters for the octets from 0x80 on. -/
  | singleOctet (upper : Array (Option Char))

/-- Whether an octet continues a character of UTF-8. -/
def isTail (b : UInt8) : Bool := 0x80 ≤ b && b ≤ 0xbf

/-- Octets read as UTF-8. Code points that are no characters are malformed. -/
def utf8Symbols : List UInt8 → List Symbol
  | [] => []
  | a :: r =>
    let x := a.toNat
    if x < 0x80 then .char (Char.ofNat x) :: utf8Symbols r
    else if 0xc0 ≤ x ∧ x ≤ 0xdf then
      match r with
      | [] => [.cutShort]
      | b :: r =>
        if 0xc2 ≤ x ∧ isTail b then
          .char (Char.ofNat (64 * (x - 0xc0) + (b.toNat - 0x80))) :: utf8Symbols r
        else [.malformed]
    else if 0xe0 ≤ x ∧ x ≤ 0xef then
      match r with
      | b :: c :: r =>
        let n := 4096 * (x - 0xe0) + 64 * (b.toNat - 0x80) + (c.toNat - 0x80)
        if isTail b ∧ isTail c ∧ 0x800 ≤ n ∧ ¬(0xd800 ≤ n ∧ n ≤ 0xdfff) ∧ n < 0xfffe then
          .char (Char.ofNat n) :: utf8Symbols r
        else [.malformed]
      | _ => [.cutShort]
    else if 0xf0 ≤ x ∧ x ≤ 0xf4 then
      match r with
      | b :: c :: d :: r =>
        let n := 262144 * (x - 0xf0) + 4096 * (b.toNat - 0x80) + 64 * (c.toNat - 0x80) +
          (d.toNat - 0x80)
        if isTail b ∧ isTail c ∧ isTail d ∧ 0x10000 ≤ n ∧ n < 0x110000 then
          .char (Char.ofNat n) :: utf8Symbols r
        else [.malformed]
      | _ => [.cutShort]
    else [.malformed]

/-- Octets read as UTF-16. -/
def utf16Symbols (bigEndian : Bool) : List UInt8 → List Symbol
  | [] => []
  | [_] => [.undecided]
  | a :: b :: r =>
    let n := unit a b
    if 0xd800 ≤ n ∧ n ≤ 0xdbff then
      match r with
      | c :: d :: r =>
        let m := unit c d
        if 0xdc00 ≤ m ∧ m ≤ 0xdfff then
          .char (Char.ofNat (0x10000 + 1024 * (n - 0xd800) + (m - 0xdc00))) ::
            utf16Symbols bigEndian r
        else [.malformed]
      | _ => [.cutShort]
    else if 0xdc00 ≤ n ∧ n ≤ 0xdfff then [.malformed]
    else .char (Char.ofNat n) :: utf16Symbols bigEndian r
where
  /-- The code unit of two octets. -/
  unit (a b : UInt8) : Nat :=
    if bigEndian then 256 * a.toNat + b.toNat else 256 * b.toNat + a.toNat

/-- Octets read one by one. -/
def singleOctetSymbols (upper : Array (Option Char)) (bytes : List UInt8) : List Symbol :=
  bytes.map fun (b : UInt8) =>
    if b < 0x80 then .char (Char.ofNat b.toNat)
    else match upper[b.toNat - 0x80]? with
      | some (some c) => .char c
      | _ => .malformed

/-- Octets read in an encoding. -/
def Encoding.symbols : Encoding → List UInt8 → List Symbol
  | .utf8, bytes => utf8Symbols bytes
  | .utf16 bigEndian, bytes => utf16Symbols bigEndian bytes
  | .singleOctet upper, bytes => singleOctetSymbols upper bytes

/-- The octets that a character of the markup takes. -/
def Encoding.width : Encoding → Nat
  | .utf16 _ => 2
  | _ => 1

/-- A document whose encoding has been told from its first octets. -/
structure Source where
  /-- The encoding. -/
  encoding : Encoding
  /-- The byte order mark, if there is one. -/
  mark : List Symbol
  /-- The octets after the mark. -/
  body : List UInt8

/-- Tells the encoding of a document from its first octets, if they suffice. -/
def Source.ofBytes? : List UInt8 → Option Source
  | [b] =>
    if b = 0x00 ∨ b = 0x3c ∨ b = 0xef ∨ b = 0xfe ∨ b = 0xff then none else some ⟨.utf8, [], [b]⟩
  | 0xfe :: 0xff :: r => some ⟨.utf16 true, [.char '\ufeff'], r⟩
  | 0xff :: 0xfe :: r => some ⟨.utf16 false, [.char '\ufeff'], r⟩
  | [0xef, 0xbb] => none
  | 0xef :: 0xbb :: 0xbf :: r => some ⟨.utf8, [.char '\ufeff'], r⟩
  | 0x00 :: b :: r => some ⟨.utf16 true, [], 0x00 :: b :: r⟩
  | a :: 0x00 :: r => some ⟨.utf16 false, [], a :: 0x00 :: r⟩
  | bytes => some ⟨.utf8, [], bytes⟩

end Coursebook.Xml
