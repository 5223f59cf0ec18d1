import Coursebook.Archive.Fault
import Coursebook.Archive.Member
import Coursebook.Text.Utf8

/-!
# Coursebook — tape archives

A tape archive is a row of blocks. A member is a header of one block and what it holds, filled up to
whole blocks; a block of zeros ends the archive. A header may be preceded by others that only bring a
longer name or size for it.
-/

namespace Coursebook.Archive

/-- The size of a block. -/
def blockSize : Nat := 512

/-- The size of the blocks that hold a number of octets. -/
def blocksFor (size : Nat) : Nat := (size + blockSize - 1) / blockSize * blockSize

/-- A fault of the compressed file, as it shows while an archive is read. -/
def streamFault (isFirst : Bool) : GzipFault → FormatFault
  | .deflated e => .compressed (.deflated e)
  | .cutShort => .compressed .cutShort
  | e => if isFirst then .notCompressed else .compressed e

/-- The next `n` octets, or as many as there are. -/
def OctetStream.read (s : OctetStream) (isFirst : Bool) (n : Nat) :
    Except FormatFault (List UInt8 × OctetStream) :=
  let (octets, rest) := s.octets.splitAt n
  match s.fault with
  | some e =>
    if octets.length < n then .error (streamFault isFirst e) else .ok (octets, { s with octets := rest })
  | none => .ok (octets, { s with octets := rest })

/-! ## Headers -/

/-- A part of a header. -/
def part (start size : Nat) (block : List UInt8) : List UInt8 := (block.drop start).take size

/-- The octets before the first zero. -/
def untilZero (bytes : List UInt8) : List UInt8 := bytes.takeWhile (· ≠ 0)

/-- The text that octets write, up to the first zero. -/
def nameOf (bytes : List UInt8) : String := .ofList (Text.utf8DecodeLossy (untilZero bytes))

/-- The number that octal digits write. -/
def octalNumber? (s : List Char) : Option Nat :=
  if s.all fun c => '0' ≤ c && c ≤ '7' then
    some (s.foldl (fun n c => 8 * n + (c.toNat - '0'.toNat)) 0)
  else none

/-- The number in a field of a header: octal digits, or octets highest first after a mark. A number
below zero counts as zero. -/
def fieldNumber? (field : List UInt8) : Option Nat :=
  match field with
  | 0x80 :: r => some (r.foldl (fun n b => 256 * n + b.toNat) 0)
  | 0xff :: _ => some 0
  | _ => octalNumber? (Text.trim ((untilZero field).map fun b => Char.ofNat b.toNat))

/-- The sum of the octets of a header, its own field counted as blanks. -/
def headerSum (block : List UInt8) : Nat :=
  let add (bytes : List UInt8) (n : Nat) : Nat := bytes.foldl (fun n b => n + b.toNat) n
  add (block.take 148) (add (block.drop 156) 256)

/-- The same sum, with the octets taken as numbers with a sign. -/
def signedHeaderSum (block : List UInt8) : Int :=
  let add (bytes : List UInt8) (n : Int) : Int := bytes.foldl (fun n b => n + b.toInt8.toInt) n
  add (block.take 148) (add (block.drop 156) 256)

/-- What a header says about its member. -/
structure TapeHeader where
  name : String
  size : Nat
  /-- The mark of the member's kind. -/
  mark : Char

namespace TapeHeader

/-- Whether a member is a file. -/
def isFile (h : TapeHeader) : Bool := "07\x00".toList.contains h.mark

/-- Whether a member is a directory. -/
def isDirectory (h : TapeHeader) : Bool := h.mark = '5'

/-- Whether a header is followed by the octets of its member. -/
def hasData (h : TapeHeader) : Bool := !"123456".toList.contains h.mark

/-- A header with the name of a directory without slashes at its end. -/
def trimmed (h : TapeHeader) : TapeHeader :=
  if h.isDirectory then
    { h with name := .ofList (Text.dropEndWhile (· = '/') h.name.toList) }
  else h

/-- The fields with numbers that a header has beside its sum: where each starts, and its size. -/
def numberFields : List (Nat × Nat) :=
  [(100, 8), (108, 8), (116, 8), (124, 12), (136, 12), (329, 8), (337, 8)]

/-- Reads a header. -/
def ofBlock (block : List UInt8) : Except HeaderFault TapeHeader := do
  if block = [] then throw .nothing
  if block.length ≠ blockSize then throw .cutShort
  if block.all (· = 0) then throw .endMark
  let some sum := fieldNumber? (part 148 8 block) | throw .invalid
  if sum ≠ headerSum block ∧ (sum : Int) ≠ signedHeaderSum block then throw .wrongSum
  let some _ := numberFields.mapM fun (start, size) => fieldNumber? (part start size block)
    | throw .invalid
  let name := nameOf (part 0 100 block)
  let mark := Char.ofNat (block.getD 156 0).toNat
  -- an old way to write a directory
  let mark := if mark = '\x00' ∧ name.endsWith "/" then '5' else mark
  let h := trimmed ⟨name, (fieldNumber? (part 124 12 block)).getD 0, mark⟩
  let front := nameOf (part 345 155 block)
  if front ≠ "" ∧ !"LKS".toList.contains mark then return { h with name := s!"{front}/{h.name}" }
  else return h

end TapeHeader

/-! ## Extended headers -/

/-- What extended headers say about a member. -/
structure Extension where
  name : Option String := none
  size : Option Nat := none

/-- A header as an extended header changes it. -/
def Extension.apply (x : Extension) (h : TapeHeader) : TapeHeader :=
  { h with
    name := match x.name with
      | some name => .ofList (Text.dropEndWhile (· = '/') name.toList)
      | none => h.name
    size := x.size.getD h.size }

/-- What a record of an extended header adds. -/
def Extension.add (x : Extension) (key value : List UInt8) : Extension :=
  let keyword := String.ofList (Text.utf8DecodeLossy key)
  let text := String.ofList (Text.utf8DecodeLossy value)
  if keyword = "path" then { x with name := some text }
  else if keyword = "size" then { x with size := some (text.toNat?.getD 0) }
  else x

/-- Adds the records of an extended header: each is its length in decimal digits, a blank, a key,
`=`, a value and a line feed. -/
def Extension.addAll : Nat → Extension → List UInt8 → Except HeaderFault Extension
  | 0, x, _ => .ok x
  | _, x, [] => .ok x
  | fuel + 1, x, bytes => do
    if bytes.head? = some 0 then return x
    let digits := bytes.takeWhile fun b => 0x30 ≤ b && b ≤ 0x39
    let length := digits.foldl (fun n b => 10 * n + (b.toNat - 0x30)) 0
    let record := bytes.take length
    if digits = [] ∨ bytes[digits.length]? ≠ some 0x20 ∨ length < 5 ∨ record.length < length
        ∨ record.getLast? ≠ some 0x0a then
      throw .invalid
    let inside := (record.drop (digits.length + 1)).dropLast
    let key := inside.takeWhile (· ≠ 0x3d)
    if key = [] ∨ key.length = inside.length then throw .invalid
    addAll fuel (x.add key (inside.drop (key.length + 1))) (bytes.drop length)

/-! ## Members -/

/-- A header, with what follows it and what is known about all members from there on. -/
structure Headed where
  header : TapeHeader
  all : Extension
  rest : OctetStream

/-- The failure to find the header that has to follow another one. -/
def followed : Except HeaderFault Headed → Except FormatFault Headed
  | .ok x => .ok x
  | .error e => .error (.header e)

/-- Reads the header of a member and those before it that belong to it, at most `fuel` of them. -/
def readHeader (isFirst : Bool) (all : Extension) :
    Nat → OctetStream → Except FormatFault (Except HeaderFault Headed)
  | 0, _ => .ok (.error .invalid)
  | fuel + 1, s => do
    let (block, s) ← s.read isFirst blockSize
    match TapeHeader.ofBlock block with
    | .error e => return .error e
    | .ok h =>
      if "LK".toList.contains h.mark then
        let (data, s) ← s.read isFirst (blocksFor h.size)
        let x ← followed (← readHeader isFirst all fuel s)
        let named := if h.mark = 'L' then { x.header with name := nameOf data } else x.header
        return .ok { x with header := named.trimmed }
      else if "xgX".toList.contains h.mark then
        let (data, s) ← s.read isFirst (blocksFor h.size)
        match Extension.addAll (data.length + 1) all data with
        | .error e => return .error e
        | .ok extension =>
          if h.mark = 'g' then followed (← readHeader isFirst extension fuel s) |>.map .ok
          else
            let x ← followed (← readHeader isFirst all fuel s)
            return .ok { x with header := extension.apply x.header }
      else return .ok ⟨(all.apply h).trimmed, all, s⟩

/-- What a member is, given its octets. -/
def memberKind (h : TapeHeader) (data : List UInt8) : MemberKind :=
  if h.isFile then .file data else if h.isDirectory then .directory else .other

/-- Reads the members from one of at most `fuel` on. -/
def readMembers (isFirst : Bool) (all : Extension) :
    Nat → OctetStream → Except FormatFault (List Member)
  | 0, _ => .ok []
  | fuel + 1, s => do
    match ← readHeader isFirst all (fuel + 1) s with
    | .error .endMark => return []
    | .error .nothing => if isFirst then throw .emptyFile else return []
    | .error e => if isFirst then throw (.header e) else return []
    | .ok x =>
      let size := if x.header.hasData then x.header.size else 0
      let (data, rest) ← x.rest.read false (blocksFor size)
      if data.length < blocksFor size then throw .endOfData
      let member : Member := ⟨x.header.name, memberKind x.header (data.take size)⟩
      return member :: (← readMembers false x.all fuel rest)

/-- The members of a tape archive. -/
def tapeMembers (s : OctetStream) : Except FormatFault (List Member) :=
  readMembers true {} (s.octets.length / blockSize + 1) s

end Coursebook.Archive
