import Coursebook.Archive.Deflate

/-!
# Coursebook — gzip files

A gzip file holds compressed octets as members one after the other, each between a header and a
check sum. What can be read of a file and how it ends are kept apart, so that a file that is damaged
further back than anyone looks is as good as any.
-/

namespace Coursebook.Archive

/-- What is wrong with a gzip file. -/
inductive GzipFault where
  /-- The file does not go on with a header, but with these octets. -/
  | noMark (octets : List UInt8)
  | unknownMethod
  | wrongSum (written counted : Nat)
  | wrongLength
  | deflated (e : DeflateFault)
  /-- The file ends too early. -/
  | cutShort
  deriving DecidableEq, Repr

/-- A number in hexadecimal digits. -/
def hexText (n : Nat) : String := "0x" ++ String.ofList (Nat.toDigits 16 n)

/-- Octets as they are written between quotes. -/
def octetsText (bytes : List UInt8) : String :=
  let hexDigit (n : Nat) : Char := Nat.digitChar n
  let escaped (b : UInt8) : List Char :=
    let n := b.toNat
    if n = 0x5c then ['\\', '\\']
    else if n = 0x09 then ['\\', 't']
    else if n = 0x0a then ['\\', 'n']
    else if n = 0x0d then ['\\', 'r']
    else if 0x20 ≤ n ∧ n < 0x7f then [Char.ofNat n]
    else ['\\', 'x', hexDigit (n / 16), hexDigit (n % 16)]
  let quote : Char := if bytes.contains 0x27 && !bytes.contains 0x22 then '"' else '\''
  let inside := bytes.flatMap fun b =>
    if b = 0x27 ∧ quote = '\'' then ['\\', '\''] else escaped b
  .ofList ('b' :: quote :: inside ++ [quote])

/-- What is wrong with a gzip file, in words. -/
def GzipFault.message : GzipFault → String
  | .noMark octets => s!"Not a gzipped file ({octetsText octets})"
  | .unknownMethod => "Unknown compression method"
  | .wrongSum written counted => s!"CRC check failed {hexText written} != {hexText counted}"
  | .wrongLength => "Incorrect length of data produced"
  | .deflated e => s!"zlib error: Error -3 while decompressing data: {e.message}"
  | .cutShort => "Compressed file ended before the end-of-stream marker was reached"

/-- What a compressed file holds, and why reading it ends early, if it does. -/
structure OctetStream where
  octets : List UInt8
  fault : Option GzipFault := none

/-! ## Check sums -/

/-- A check sum moved on by one bit. -/
def sumBit (n : UInt32) : UInt32 :=
  if n &&& 1 = 1 then (n >>> 1) ^^^ 0xedb88320 else n >>> 1

/-- A check sum moved on by an octet. -/
def sumOctet (n : UInt32) (b : UInt8) : UInt32 :=
  sumBit (sumBit (sumBit (sumBit (sumBit (sumBit (sumBit (sumBit (n ^^^ b.toUInt32))))))))

/-- The check sum of octets. -/
def checkSum (bytes : List UInt8) : Nat := (bytes.foldl sumOctet 0xffffffff ^^^ 0xffffffff).toNat

/-- The number that octets write, lowest first. -/
def lowFirst (bytes : List UInt8) : Nat := bytes.foldr (fun b n => b.toNat + 256 * n) 0

/-! ## Headers and members -/

/-- Reads exactly `n` octets. -/
def takeExactly (n : Nat) (bytes : List UInt8) : Except GzipFault (List UInt8 × List UInt8) :=
  if bytes.length < n then .error .cutShort else .ok (bytes.splitAt n)

/-- What follows the first octet zero. -/
def afterZero (bytes : List UInt8) : List UInt8 := (bytes.dropWhile (· ≠ 0)).tail

/-- What follows an extra field, if a header has one. -/
def afterExtra (flags : Nat) (bytes : List UInt8) : Except GzipFault (List UInt8) := do
  if flags.testBit 2 then
    let (size, r) ← takeExactly 2 bytes
    return (← takeExactly (lowFirst size) r).2
  else return bytes

/-- What follows the header of a member. -/
def afterHeader (bytes : List UInt8) : Except GzipFault (List UInt8) := do
  let mark := bytes.take 2
  if mark ≠ [0x1f, 0x8b] then throw (.noMark mark)
  let (fields, r) ← takeExactly 8 (bytes.drop 2)
  if fields.head? ≠ some 8 then throw .unknownMethod
  let flags := (fields.getD 1 0).toNat
  let r ← afterExtra flags r
  -- a name and a comment each end with an octet zero
  let r := if flags.testBit 3 then afterZero r else r
  let r := if flags.testBit 4 then afterZero r else r
  if flags.testBit 1 then return (← takeExactly 2 r).2 else return r

/-- What follows the check sum of a member that holds octets. -/
def afterSum (octets : List UInt8) (bytes : List UInt8) : Except GzipFault (List UInt8) := do
  let (sum, r) ← takeExactly 8 bytes
  let written := lowFirst (sum.take 4)
  let counted := checkSum octets
  if written ≠ counted then throw (.wrongSum written counted)
  if lowFirst (sum.drop 4) ≠ octets.length % 0x100000000 then throw .wrongLength
  -- zeros after a member carry no meaning
  return r.dropWhile (· = 0)

/-- What is wrong where deflated octets cannot be read to their end. -/
def gzipFault : InflateStop → GzipFault
  | .cutShort => .cutShort
  | .fault e => .deflated e

/-- The number of octets that are read at a time; with a fault all those read with it are lost. -/
def pieceSize : Nat := 8192

/-- What can be read of deflated octets before a fault in them. -/
def readable (octets : List UInt8) : InflateStop → List UInt8
  | .cutShort => octets
  | .fault _ => octets.take (octets.length / pieceSize * pieceSize)

/-- What a gzip file holds from one of at most `fuel` members on. -/
def gunzipMembers : Nat → List UInt8 → OctetStream
  | 0, _ => ⟨[], none⟩
  | _, [] => ⟨[], none⟩
  | fuel + 1, bytes =>
    match afterHeader bytes with
    | .error e => ⟨[], e⟩
    | .ok r =>
      let inflated := inflate r
      let octets := inflated.octets.toList
      match inflated.rest with
      | .error e => ⟨readable octets e, gzipFault e⟩
      | .ok r =>
        match afterSum octets r with
        | .error e => ⟨octets, e⟩
        | .ok r =>
          let next := gunzipMembers fuel r
          ⟨octets ++ next.octets, next.fault⟩

/-- What a gzip file holds. -/
def gunzip (bytes : List UInt8) : OctetStream := gunzipMembers (bytes.length + 1) bytes

end Coursebook.Archive
