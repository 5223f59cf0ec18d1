/-!
# Coursebook — UTF-8

Octets read as UTF-8, well formed or not. `pieces` cuts the octets into characters and ill-formed
stretches, each stretch as long as some character starts with it; `decode` gives the text or the
first fault, `utf8DecodeLossy` writes U+FFFD for each stretch.
-/

namespace Coursebook.Text

/-- Why octets are not UTF-8. -/
inductive Utf8Fault where
  /-- The octet starts no character. -/
  | invalidStart
  /-- A character has begun and the next octet does not continue it. -/
  | invalidContinuation
  /-- A character has begun and the octets end. -/
  | truncated
  deriving DecidableEq, Repr

/-- The part of the octets that a step of the reading consumes. -/
inductive Utf8Piece where
  /-- A character. -/
  | char (c : Char)
  /-- Octets that start no character or do not finish one. -/
  | bad (octets : List UInt8) (fault : Utf8Fault)

/-- A character of which some octets have been read. -/
structure Utf8Pending where
  /-- The octets read, last one first. -/
  seen : List UInt8
  /-- The bits read. -/
  value : Nat
  /-- The octets that are still missing, less one. -/
  owed : Nat
  /-- The least value the next octet may have. -/
  low : Nat
  /-- The greatest value the next octet may have. -/
  high : Nat

/-- What the first octet of a character says of the others; `none` where it starts none. A second
octet is bounded more narrowly after four of the first ones, which rules out long forms,
surrogates and code points past the last. -/
def utf8Start? (b : UInt8) : Option Utf8Pending :=
  let n := b.toNat
  if 0xc2 ≤ n ∧ n ≤ 0xdf then some ⟨[b], n - 0xc0, 0, 0x80, 0xbf⟩
  else if 0xe0 ≤ n ∧ n ≤ 0xef then
    some ⟨[b], n - 0xe0, 1, if n = 0xe0 then 0xa0 else 0x80, if n = 0xed then 0x9f else 0xbf⟩
  else if 0xf0 ≤ n ∧ n ≤ 0xf4 then
    some ⟨[b], n - 0xf0, 2, if n = 0xf0 then 0x90 else 0x80, if n = 0xf4 then 0x8f else 0xbf⟩
  else none

/-- The octets cut into characters and ill-formed stretches, a character having perhaps begun. -/
def utf8Pieces : Option Utf8Pending → List UInt8 → List Utf8Piece
  | none, [] => []
  | some p, [] => [.bad p.seen.reverse .truncated]
  | none, b :: r => start b fun p => utf8Pieces p r
  | some p, b :: r =>
    if p.low ≤ b.toNat ∧ b.toNat ≤ p.high then
      let value := 64 * p.value + (b.toNat - 0x80)
      match p.owed with
      | 0 => .char (Char.ofNat value) :: utf8Pieces none r
      | k + 1 => utf8Pieces (some ⟨b :: p.seen, value, k, 0x80, 0xbf⟩) r
    else .bad p.seen.reverse .invalidContinuation :: start b fun p => utf8Pieces p r
where
  /-- An octet between characters, and what the rest gives after it. -/
  start (b : UInt8) (next : Option Utf8Pending → List Utf8Piece) : List Utf8Piece :=
    if b < 0x80 then .char (Char.ofNat b.toNat) :: next none
    else match utf8Start? b with
      | some p => next (some p)
      | none => .bad [b] .invalidStart :: next none

/-- Octets that are not UTF-8: where the first ill-formed stretch lies, and what is wrong. -/
structure Utf8Error where
  /-- The offset of its first octet. -/
  offset : Nat
  /-- The octets of the stretch. -/
  octets : List UInt8
  /-- What is wrong with it. -/
  fault : Utf8Fault
  deriving DecidableEq, Repr

/-- The text of pieces that start at an offset, or the first fault. -/
def utf8Text (offset : Nat) : List Utf8Piece → Except Utf8Error (List Char)
  | [] => .ok []
  | .bad octets fault :: _ => .error ⟨offset, octets, fault⟩
  | .char c :: r => (utf8Text (offset + c.utf8Size) r).map (c :: ·)

/-- The text that octets write. -/
def utf8Decode (bytes : List UInt8) : Except Utf8Error (List Char) :=
  utf8Text 0 (utf8Pieces none bytes)

/-- The text that octets write, with U+FFFD for each ill-formed stretch. -/
def utf8DecodeLossy (bytes : List UInt8) : List Char :=
  (utf8Pieces none bytes).map fun
    | .char c => c
    | .bad _ _ => '\ufffd'

/-- The octets of a character. -/
def utf8Octets (c : Char) : List UInt8 := String.utf8EncodeChar c

/-- What is wrong, in words. -/
def Utf8Fault.message : Utf8Fault → String
  | .invalidStart => "invalid start byte"
  | .invalidContinuation => "invalid continuation byte"
  | .truncated => "unexpected end of data"

/-- Two hexadecimal digits. -/
def octetText (b : UInt8) : String :=
  .ofList [Nat.digitChar (b.toNat / 16), Nat.digitChar (b.toNat % 16)]

/-- Why octets are not UTF-8, in words. -/
def Utf8Error.message (e : Utf8Error) : String :=
  match e.octets with
  | [b] =>
    s!"'utf-8' codec can't decode byte 0x{octetText b} in position {e.offset}: {e.fault.message}"
  | octets =>
    s!"'utf-8' codec can't decode bytes in position {e.offset}-{e.offset + octets.length - 1}: " ++
      e.fault.message

end Coursebook.Text
