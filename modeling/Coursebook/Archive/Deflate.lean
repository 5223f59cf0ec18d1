/-!
# Coursebook — deflated octets

Octets that have been compressed with the deflate method, as blocks that are stored as they are or
written in two prefix codes: one for octets and the lengths of repetitions, one for how far back a
repetition lies. What has been read before a fault is kept.
-/

namespace Coursebook.Archive

/-- What is wrong with deflated octets. -/
inductive DeflateFault where
  | blockKind
  | storedLength
  | symbolCount
  | lengthCode
  | lengthRepeat
  | noEndOfBlock
  | literalCode
  | distanceCode
  | literal
  | distance
  | tooFarBack
  deriving DecidableEq, Repr

/-- What is wrong with deflated octets, in words. -/
def DeflateFault.message : DeflateFault → String
  | .blockKind => "invalid block type"
  | .storedLength => "invalid stored block lengths"
  | .symbolCount => "too many length or distance symbols"
  | .lengthCode => "invalid code lengths set"
  | .lengthRepeat => "invalid bit length repeat"
  | .noEndOfBlock => "invalid code -- missing end-of-block"
  | .literalCode => "invalid literal/lengths set"
  | .distanceCode => "invalid distances set"
  | .literal => "invalid literal/length code"
  | .distance => "invalid distance code"
  | .tooFarBack => "invalid distance too far back"

/-- Octets as they are read bit by bit, from the lowest bit of each on. -/
structure BitReader where
  /-- The octets that have not been begun. -/
  rest : List UInt8
  /-- The bits of the octets that have been begun, as a number. -/
  held : Nat := 0
  /-- The number of these bits. -/
  count : Nat := 0

namespace BitReader

/-- Begins octets until `n` bits are held. -/
def fill (n : Nat) (held count : Nat) : List UInt8 → BitReader
  | [] => ⟨[], held, count⟩
  | b :: r =>
    if n ≤ count then ⟨b :: r, held, count⟩
    else fill n (held + (b.toNat <<< count)) (count + 8) r

/-- The number that the next `n` bits write, lowest first. -/
def take? (r : BitReader) (n : Nat) : Option (Nat × BitReader) :=
  let r := fill n r.held r.count r.rest
  if r.count < n then none
  else some (r.held % (1 <<< n), ⟨r.rest, r.held >>> n, r.count - n⟩)

/-- The octets after the one that has been begun last. -/
def octets (r : BitReader) : List UInt8 :=
  (List.range (r.count / 8)).map (fun i => UInt8.ofNat (r.held >>> (r.count % 8 + 8 * i)))
    ++ r.rest

end BitReader

/-- How far the reading of deflated octets has come. -/
structure Inflation where
  bits : BitReader
  out : ByteArray := .empty

/-- Why the reading of deflated octets ends before their end. -/
inductive InflateStop where
  /-- There are no more octets. -/
  | cutShort
  | fault (e : DeflateFault)
  deriving DecidableEq, Repr

/-- A step in the reading of deflated octets. -/
abbrev Inflating := ExceptT InflateStop (StateM Inflation)

namespace Inflating

/-- Reads a number of `n` bits. -/
def bits (n : Nat) : Inflating Nat := do
  match (← get).bits.take? n with
  | some (value, r) =>
    modify fun s => { s with bits := r }
    return value
  | none => throw .cutShort

/-- Writes an octet. -/
def put (b : UInt8) : Inflating Unit := modify fun s => { s with out := s.out.push b }

/-- Ends with a fault if a condition holds. -/
def refuse (condition : Bool) (e : DeflateFault) : Inflating Unit :=
  if condition then throw (.fault e) else return

end Inflating

open Inflating

/-! ## Prefix codes -/

/-- A prefix code in which the codes of one length are neighbours, in the order of their symbols. -/
structure PrefixCode where
  /-- The number of codes of each length, from one bit on. -/
  counts : List Nat
  /-- The symbols in the order of their codes. -/
  symbols : Array Nat

namespace PrefixCode

/-- The lengths that a code may have. -/
def lengths : List Nat := List.range' 1 15

/-- The code that gives each symbol a code of some length; zero gives it none. -/
def ofLengths (ls : List Nat) : PrefixCode where
  counts := lengths.map ls.count
  symbols :=
    (lengths.flatMap fun l => ls.zipIdx.filterMap fun (k, i) =>
      if k = l then some i else none).toArray

/-- What is left of the longest codes when all are given out; less than nothing if there are too
many. -/
def spare (c : PrefixCode) : Int :=
  c.counts.foldl (fun (left : Int) (n : Nat) => 2 * left - n) 1

/-- Whether a code is complete, or has at most one symbol. -/
def isUsable (c : PrefixCode) : Bool :=
  c.spare = 0 || 0 < c.spare && c.counts.tail.all (· = 0)

/-- Reads a symbol: `first` is the first code of the length at hand, and `index` the number of
shorter codes. -/
def readFrom (c : PrefixCode) (e : DeflateFault) (code first index : Nat) :
    List Nat → Inflating Nat
  | [] => throw (.fault e)
  | n :: r => do
    let code := code + (← bits 1)
    if code < first + n then
      match c.symbols[index + (code - first)]? with
      | some symbol => return symbol
      | none => throw (.fault e)
    else c.readFrom e (2 * code) (2 * (first + n)) (index + n) r

/-- Reads a symbol. -/
def read (c : PrefixCode) (e : DeflateFault) : Inflating Nat := c.readFrom e 0 0 0 c.counts

end PrefixCode

/-- The prefix codes of a block. -/
structure BlockCodes where
  literals : PrefixCode
  distances : PrefixCode

/-- The codes of a block that does not bring its own. -/
def fixedCodes : BlockCodes where
  literals := .ofLengths
    (List.replicate 144 8 ++ List.replicate 112 9 ++ List.replicate 24 7 ++ List.replicate 8 8)
  distances := .ofLengths (List.replicate 32 5)

/-- The order in which the lengths of the codes for lengths are written. -/
def lengthOrder : List Nat := [16, 17, 18, 0, 8, 7, 9, 6, 10, 5, 11, 4, 12, 3, 13, 2, 14, 1, 15]

/-- Reads `n` lengths of codes in front of which those in `done` have been read, last first; every
round reads at least one. -/
def readLengths (c : PrefixCode) (n : Nat) : Nat → List Nat → Inflating (List Nat)
  | 0, done => return done.reverse
  | fuel + 1, done => do
    if n ≤ done.length then return done.reverse
    let symbol ← c.read .lengthCode
    if symbol < 16 then readLengths c n fuel (symbol :: done)
    else do
      let (length, times) ← match symbol with
        | 16 => do
          refuse done.isEmpty .lengthRepeat
          pure (done.headD 0, 3 + (← bits 2))
        | 17 => do pure (0, 3 + (← bits 3))
        | _ => do pure (0, 11 + (← bits 7))
      refuse (decide (n < done.length + times)) .lengthRepeat
      readLengths c n fuel (List.replicate times length ++ done)

/-- Reads the lengths of the codes for lengths, in the order in which they are written. -/
def readShortLengths : List Nat → Inflating (List (Nat × Nat))
  | [] => return []
  | symbol :: r => do
    let length ← bits 3
    return (symbol, length) :: (← readShortLengths r)

/-- Reads the codes that a block brings. -/
def readCodes : Inflating BlockCodes := do
  let literals := 257 + (← bits 5)
  let distances := 1 + (← bits 5)
  let shorts := 4 + (← bits 4)
  refuse (decide (286 < literals) || decide (30 < distances)) .symbolCount
  let short ← readShortLengths (lengthOrder.take shorts)
  let shortCode := PrefixCode.ofLengths ((List.range 19).map fun i => (short.lookup i).getD 0)
  refuse (shortCode.spare ≠ 0) .lengthCode
  let ls ← readLengths shortCode (literals + distances) (literals + distances) []
  refuse (ls.getD 256 0 = 0) .noEndOfBlock
  let codes : BlockCodes :=
    ⟨.ofLengths (ls.take literals), .ofLengths (ls.drop literals)⟩
  refuse (!codes.literals.isUsable) .literalCode
  refuse (!codes.distances.isUsable) .distanceCode
  return codes

/-! ## Blocks -/

/-- The shortest length of each symbol for repetitions, and the number of bits added to it. -/
def lengthBases : Array (Nat × Nat) :=
  #[(3, 0), (4, 0), (5, 0), (6, 0), (7, 0), (8, 0), (9, 0), (10, 0), (11, 1), (13, 1), (15, 1),
    (17, 1), (19, 2), (23, 2), (27, 2), (31, 2), (35, 3), (43, 3), (51, 3), (59, 3), (67, 4),
    (83, 4), (99, 4), (115, 4), (131, 5), (163, 5), (195, 5), (227, 5), (258, 0)]

/-- The shortest distance of each symbol for distances, and the number of bits added to it. -/
def distanceBases : Array (Nat × Nat) :=
  #[(1, 0), (2, 0), (3, 0), (4, 0), (5, 1), (7, 1), (9, 2), (13, 2), (17, 3), (25, 3), (33, 4),
    (49, 4), (65, 5), (97, 5), (129, 6), (193, 6), (257, 7), (385, 7), (513, 8), (769, 8),
    (1025, 9), (1537, 9), (2049, 10), (3073, 10), (4097, 11), (6145, 11), (8193, 12), (12289, 12),
    (16385, 13), (24577, 13)]

/-- Reads what a symbol stands for in a table of shortest values. -/
def readBase (table : Array (Nat × Nat)) (symbol : Nat) (e : DeflateFault) : Inflating Nat := do
  match table[symbol]? with
  | some (base, extra) => return base + (← bits extra)
  | none => throw (.fault e)

/-- Writes `n` octets again that lie some distance back. -/
def repeatBack (distance : Nat) : Nat → Inflating Unit
  | 0 => return
  | n + 1 => do
    modify fun s =>
      let b := (s.out[s.out.size - distance]?).getD 0
      { s with out := s.out.push b }
    repeatBack distance n

/-- Reads a block up to its end; every round reads at least one bit. -/
def readBlock (codes : BlockCodes) : Nat → Inflating Unit
  | 0 => throw .cutShort
  | fuel + 1 => do
    let symbol ← codes.literals.read .literal
    if symbol < 256 then
      put (UInt8.ofNat symbol)
      readBlock codes fuel
    else if symbol = 256 then return
    else
      let length ← readBase lengthBases (symbol - 257) .literal
      let distance ← readBase distanceBases (← codes.distances.read .distance) .distance
      refuse (decide ((← get).out.size < distance)) .tooFarBack
      repeatBack distance length
      readBlock codes fuel

/-- Writes octets as they are. -/
def copyStored : Nat → Inflating Unit
  | 0 => return
  | n + 1 => do
    put (UInt8.ofNat (← bits 8))
    copyStored n

/-- Reads a block that is stored as it is. -/
def readStored : Inflating Unit := do
  modify fun s => { s with bits := { rest := s.bits.octets } }
  let length ← bits 16
  let complement ← bits 16
  refuse (length + complement ≠ 0xffff) .storedLength
  copyStored length

/-- Reads blocks up to the last one; every block takes at least one of `fuel` bits. -/
def readBlocks (fuel : Nat) : Nat → Inflating Unit
  | 0 => throw .cutShort
  | n + 1 => do
    let last ← bits 1
    match ← bits 2 with
    | 0 => readStored
    | 1 => readBlock fixedCodes fuel
    | 2 => do readBlock (← readCodes) fuel
    | _ => throw (.fault .blockKind)
    if last = 1 then return else readBlocks fuel n

/-- Deflated octets read to their end. -/
structure Inflated where
  octets : ByteArray
  /-- The octets after the end, or why the end cannot be reached. -/
  rest : Except InflateStop (List UInt8)

/-- Reads deflated octets. -/
def inflate (bytes : List UInt8) : Inflated :=
  let fuel := 8 * bytes.length + 1
  let (result, s) := (readBlocks fuel fuel).run { bits := { rest := bytes } }
  ⟨s.out, result.map fun _ => s.bits.octets⟩

end Coursebook.Archive
