/-
# Darkroom.File.Inflate -- unpacking deflated data

Deflated data are a run of blocks.  A block is stored as it is, or it is a run
of symbols in two prefix codes, fixed ones or ones that the block describes
itself: bytes, and references to bytes that have been written before.

Unpacking stops as soon as there are as many bytes as the caller needs; what
follows is not looked at.  Otherwise the end of the last block is reached, the
data end before that, or they make no sense.
-/
import Darkroom.File.Bytes
import Darkroom.File.Checksum
import Darkroom.File.PrefixCode

namespace Darkroom.Inflate

set_option autoImplicit false

/-! ## Bits -/

/-- The bit at a position, the low bit of a byte first. -/
def bitAt (data : Bytes) (position : Nat) : Option Nat := data.lowBits? position 1

/-- The number that `count` bits write, low bit first, and the position behind. -/
def bits (data : Bytes) (count position : Nat) : Except Flaw (Nat × Nat) :=
  match data.lowBits? position count with
  | some n => .ok (n, position + count)
  | none => .error .cut

/-! ## Tables -/

/-- The least length of each length symbol, from symbol 257 on. -/
def lengthBases : Array Nat := #[
  3, 4, 5, 6, 7, 8, 9, 10, 11, 13, 15, 17, 19, 23, 27, 31, 35, 43, 51, 59, 67, 83, 99, 115,
  131, 163, 195, 227, 258]

/-- How many bits are added to a length. -/
def lengthBits : Array Nat := #[
  0, 0, 0, 0, 0, 0, 0, 0, 1, 1, 1, 1, 2, 2, 2, 2, 3, 3, 3, 3, 4, 4, 4, 4, 5, 5, 5, 5, 0]

def distanceBases : Array Nat := #[
  1, 2, 3, 4, 5, 7, 9, 13, 17, 25, 33, 49, 65, 97, 129, 193, 257, 385, 513, 769, 1025, 1537,
  2049, 3073, 4097, 6145, 8193, 12289, 16385, 24577]

def distanceBits : Array Nat := #[
  0, 0, 0, 0, 1, 1, 2, 2, 3, 3, 4, 4, 5, 5, 6, 6, 7, 7, 8, 8, 9, 9, 10, 10, 11, 11, 12, 12,
  13, 13]

/-- The order in which the lengths of the code for lengths are written. -/
def lengthOrder : List Nat := [16, 17, 18, 0, 8, 7, 9, 6, 10, 5, 11, 4, 12, 3, 13, 2, 14, 1, 15]

def fixedLiterals : PrefixCode := .ofLengths ((List.range 288).map fun i =>
  if i < 144 then 8 else if i < 256 then 9 else if i < 280 then 7 else 8)

def fixedDistances : PrefixCode := .ofLengths (List.replicate 30 5)

/-! ## Blocks -/

/-- The two codes of a block. -/
structure Codes where
  literals : PrefixCode
  distances : PrefixCode

/-- How unpacking ends. -/
inductive Ending
  /-- There are as many bytes as are needed. -/
  | enough
  /-- The last block is over. -/
  | finished
  | flawed (f : Flaw)
  deriving DecidableEq

/-- What has been unpacked, and where. -/
structure Progress where
  out : Bytes
  position : Nat

/-- Copy bytes from a distance back; each may have been written by the copying
itself. -/
def copyBack (out : Bytes) (distance : Nat) : Nat → Bytes
  | 0 => out
  | n + 1 => copyBack (out.push (out.getD (out.size - distance) 0)) distance n

/-- The value of a symbol with bits added to it. -/
def extended (data : Bytes) (bases extra : Array Nat) (symbol position : Nat) :
    Except Flaw (Nat × Nat) :=
  if symbol < bases.size then do
    let (more, position) ← bits data (extra.getD symbol 0) position
    return (bases.getD symbol 0 + more, position)
  else .error .broken

/-- A reference: how many bytes are copied, from how far back. -/
def reference (data : Bytes) (codes : Codes) (symbol position : Nat) :
    Except Flaw (Nat × Nat × Nat) := do
  let (length, position) ← extended data lengthBases lengthBits (symbol - 257) position
  let (symbol, position) ← codes.distances.decode (bitAt data) position
  let (distance, position) ← extended data distanceBases distanceBits symbol position
  return (length, distance, position)

/-- The symbols of a block.  Nothing is answered where the block is over;
`fuel` is at least the number of bits. -/
def symbols (data : Bytes) (need : Nat) (codes : Codes) : Nat → Progress →
    Progress × Option Ending
  | 0, p => (p, some (.flawed .broken))
  | fuel + 1, p =>
      if need ≤ p.out.size then (p, some .enough)
      else match codes.literals.decode (bitAt data) p.position with
        | .error f => (p, some (.flawed f))
        | .ok (symbol, position) =>
            if symbol < 256 then
              symbols data need codes fuel ⟨p.out.push (UInt8.ofNat symbol), position⟩
            else if symbol = 256 then ({ p with position := position }, none)
            else match reference data codes symbol position with
              | .error f => (p, some (.flawed f))
              | .ok (length, distance, position) =>
                  if p.out.size < distance then (p, some (.flawed .broken))
                  else symbols data need codes fuel ⟨copyBack p.out distance length, position⟩

/-- The lengths of codes, written with runs: 16 repeats the length before, 17
and 18 stand for zeros.  The lengths come last one first. -/
def codeLengths (data : Bytes) (code : PrefixCode) (count : Nat) : Nat → List Nat → Nat →
    Except Flaw (List Nat × Nat)
  | 0, _, _ => .error .broken
  | fuel + 1, done, position =>
      if count ≤ done.length then
        if count = done.length then .ok (done.reverse, position) else .error .broken
      else do
        let (symbol, position) ← code.decode (bitAt data) position
        if symbol < 16 then codeLengths data code count fuel (symbol :: done) position
        else
          let (extra, least, value) ← match symbol, done with
            | 16, last :: _ => .ok (2, 3, last)
            | 16, [] => .error .broken
            | 17, _ => .ok (3, 3, 0)
            | _, _ => .ok (7, 11, 0)
          let (more, position) ← bits data extra position
          codeLengths data code count fuel (List.replicate (least + more) value ++ done) position

/-- The lengths of the code for lengths. -/
def orderedLengths (data : Bytes) : List Nat → Nat → Nat → Except Flaw (List (Nat × Nat) × Nat)
  | [], _, position => .ok ([], position)
  | _, 0, position => .ok ([], position)
  | symbol :: rest, count + 1, position => do
      let (length, position) ← bits data 3 position
      let (lengths, position) ← orderedLengths data rest count position
      return ((symbol, length) :: lengths, position)

/-- A code is complete, or has at most one code, of one bit. -/
def usable (c : PrefixCode) : Bool :=
  c.fits && (c.room = 0 || c.symbols.isEmpty || (c.counts.drop 1).all (· = 0))

/-- The codes that a block describes. -/
def describedCodes (data : Bytes) (position : Nat) : Except Flaw (Codes × Nat) := do
  let (n, position) ← bits data 5 position
  let (m, position) ← bits data 5 position
  let (k, position) ← bits data 4 position
  let literals := n + 257
  let distances := m + 1
  if 286 < literals || 30 < distances then .error .broken
  let (ordered, position) ← orderedLengths data lengthOrder (k + 4) position
  let lengthCode := PrefixCode.ofLengths ((List.range 19).map fun i =>
    ((ordered.find? (·.1 = i)).map (·.2)).getD 0)
  if !(lengthCode.symbols.isEmpty || (lengthCode.fits && lengthCode.room = 0)) then .error .broken
  let total := literals + distances
  let (lengths, position) ← codeLengths data lengthCode total (total + 1) [] position
  let codes : Codes := ⟨.ofLengths (lengths.take literals), .ofLengths (lengths.drop literals)⟩
  if lengths.getD 256 0 = 0 || !usable codes.literals || !usable codes.distances then
    .error .broken
  return (codes, position)

/-- A block that is stored as it is. -/
def stored (data : Bytes) (need : Nat) (p : Progress) : Progress × Option Ending :=
  let start := (p.position + 7) / 8
  match data.low16? start, data.low16? (start + 2) with
  | some length, some check =>
      if length + check ≠ 65535 then (p, some (.flawed .broken))
      else
        let bytes := data.slice (start + 4) length
        let p : Progress := ⟨p.out ++ bytes, 8 * (start + 4 + bytes.size)⟩
        if bytes.size = length then (p, none)
        else (p, some (if need ≤ p.out.size then .enough else .flawed .cut))
  | _, _ => (p, some (.flawed .cut))

/-- One block; nothing is answered where it is over. -/
def block (data : Bytes) (need kind : Nat) (p : Progress) : Progress × Option Ending :=
  let fuel := 8 * data.size + 1
  match kind with
  | 0 => stored data need p
  | 1 => symbols data need ⟨fixedLiterals, fixedDistances⟩ fuel p
  | 2 => match describedCodes data p.position with
    | .ok (codes, position) => symbols data need codes fuel { p with position := position }
    | .error f => (p, some (.flawed f))
  | _ => (p, some (.flawed .broken))

/-- The blocks in order; `fuel` is at least the number of bits. -/
def blocks (data : Bytes) (need : Nat) : Nat → Progress → Progress × Ending
  | 0, p => (p, .flawed .broken)
  | fuel + 1, p =>
      if need ≤ p.out.size then (p, .enough)
      else match bits data 3 p.position with
        | .error f => (p, .flawed f)
        | .ok (head, position) =>
            match block data need (head / 2) { p with position := position } with
            | (p, some ending) => (p, ending)
            | (p, none) =>
                if need ≤ p.out.size then (p, .enough)
                else if head % 2 = 1 then (p, .finished)
                else blocks data need fuel p

/-- Unpack deflated data to `need` bytes. -/
def raw (data : Bytes) (need : Nat) : Progress × Ending :=
  blocks data need (8 * data.size + 1) ⟨#[], 0⟩

/-- Unpack deflated data with a head of two bytes and a check sum behind them.
The check sum is looked at only where the data end before there is enough. -/
def wrapped (data : Bytes) (need : Nat) : Bytes × Ending :=
  if data.size < 2 then (#[], .flawed .cut)
  else
    let head := 256 * data.at0 0 + data.at0 1
    if head % 31 ≠ 0 || data.at0 0 % 16 ≠ 8 || 7 < data.at0 0 / 16 || data.at0 1 / 32 % 2 = 1 then
      (#[], .flawed .broken)
    else
      let (p, ending) := raw (data.extract 2 data.size) need
      match ending with
      | .finished => match data.high32? (2 + (p.position + 7) / 8) with
        | none => (p.out, .flawed .cut)
        | some sum =>
            (p.out, if sum = (Checksum.adler32 p.out).toNat then .finished else .flawed .broken)
      | ending => (p.out, ending)

end Darkroom.Inflate
