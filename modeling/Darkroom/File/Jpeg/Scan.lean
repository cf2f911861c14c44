/-
# Darkroom.File.Jpeg.Scan -- the coefficients of a scan

A scan is a row of blocks.  The first number of a block is written as the
difference to that of the block before; the other numbers come in zigzag order,
each with the count of zeros in front of it.  A prefix code says how many zeros
and how many bits follow.

Where the bits of a scan end too early, zeros stand for what is missing in the
block group at hand, and the blocks behind it are zero.
-/
import Darkroom.File.Bytes
import Darkroom.File.PrefixCode
import Darkroom.File.Jpeg.Cosine

namespace Darkroom.Jpeg

set_option autoImplicit false

/-- The places of the 64 numbers of a block in the order in which they are written. -/
def zigzag : Array Nat := #[
  0, 1, 8, 16, 9, 2, 3, 10, 17, 24, 32, 25, 18, 11, 4, 5,
  12, 19, 26, 33, 40, 48, 41, 34, 27, 20, 13, 6, 7, 14, 21, 28,
  35, 42, 49, 56, 57, 50, 43, 36, 29, 22, 15, 23, 30, 37, 44, 51,
  58, 59, 52, 45, 38, 31, 39, 46, 53, 60, 61, 54, 47, 55, 62, 63]

/-! ## Bits -/

/-- The bit at a position, high bits first; zero behind the end. -/
def bitAt (data : Bytes) (position : Nat) : Nat :=
  data.at0 (position / 8) >>> (7 - position % 8) % 2

/-- The number that `count` bits write, high bit first. -/
def bitsAt (data : Bytes) (position : Nat) : Nat → Nat
  | 0 => 0
  | count + 1 => 2 * bitsAt data position count + bitAt data (position + count)

/-- A number of `count` bits; one whose first bit is zero is negative. -/
def signedAt (data : Bytes) (position count : Nat) : Int :=
  let n := bitsAt data position count
  if count = 0 then 0 else if n < Nat.pow 2 (count - 1) then (n : Int) - (Nat.pow 2 count - 1 : Nat) else n

/-- The symbol at a position and the position behind it.  Bits that are no code
count as the symbol zero. -/
def symbolAt (data : Bytes) (code : PrefixCode) (position : Nat) : Nat × Nat :=
  match code.decode (fun i => some (bitAt data i)) position with
  | .ok found => found
  | .error _ => (0, position + 17)

/-! ## Blocks -/

/-- The two codes that a component is written with. -/
structure Codes where
  first : PrefixCode
  others : PrefixCode
  deriving Inhabited

/-- The numbers of a block behind the first, from number `k` on. -/
def readOthers (data : Bytes) (code : PrefixCode) : (fuel k position : Nat) → Block → Block × Nat
  | 0, _, position, b => (b, position)
  | fuel + 1, k, position, b =>
      if 63 < k then (b, position)
      else
        let (symbol, position) := symbolAt data code position
        let zeros := symbol / 16
        let count := symbol % 16
        if count = 0 then
          if zeros = 15 then readOthers data code fuel (k + 16) position b else (b, position)
        else
          let value := signedAt data position count
          let place := zigzag.getD (k + zeros) 63
          readOthers data code fuel (k + zeros + 1) (position + count) (b.setIfInBounds place value)

/-- A block, given the first number of the block before. -/
def readBlock (data : Bytes) (codes : Codes) (before : Int) (position : Nat) : Block × Nat :=
  let (count, position) := symbolAt data codes.first position
  let value := before + signedAt data position count
  readOthers data codes.others 63 1 (position + count) (Block.zero.setIfInBounds 0 value)

/-- Where a block of a scan belongs: its component among those of the scan, and its
place in the component. -/
structure Unit_ where
  component : Nat
  place : Nat

/-- What has been read of a scan. -/
structure Scanned where
  position : Nat
  /-- The first numbers of the blocks before, by component. -/
  before : Array Int
  /-- The blocks of the components. -/
  blocks : Array (Array Block)

namespace Scanned

/-- Read one block. -/
def read (data : Bytes) (codes : Array Codes) (s : Scanned) (u : Unit_) : Scanned :=
  let (block, position) :=
    readBlock data (codes.getD u.component default) (s.before.getD u.component 0) s.position
  { position
    before := s.before.setIfInBounds u.component (block.getD 0 0)
    blocks := s.blocks.modify u.component fun blocks => blocks.setIfInBounds u.place block }

/-- Read a group of blocks, when there are bits left. -/
def readGroup (data : Bytes) (codes : Array Codes) (s : Scanned) (group : List Unit_) : Scanned :=
  if 8 * data.size < s.position then s else group.foldl (read data codes) s

/-- Read the groups of one segment, which starts anew. -/
def readSegment (codes : Array Codes) (s : Scanned) (data : Bytes) (groups : List (List Unit_)) :
    Scanned :=
  groups.foldl (readGroup data codes) ⟨0, s.before.map fun _ => 0, s.blocks⟩

end Scanned

/-! ## Segments -/

/-- The segments of a scan: bytes up to a restart mark, without the zeros that
follow a byte of 255.  Answered with them is the position of the mark that ends
the scan, when there is one. -/
def segmentsFrom (data : Bytes) : Nat → Nat → Bytes → List Bytes → List Bytes × Option Nat
  | 0, _, segment, done => ((segment :: done).reverse, none)
  | fuel + 1, position, segment, done =>
      if data.size ≤ position then ((segment :: done).reverse, none)
      else
        let b := data.getD position 0
        if b ≠ 255 then segmentsFrom data fuel (position + 1) (segment.push b) done
        else if data.size ≤ position + 1 then ((segment :: done).reverse, none)
        else
          let mark := data.at0 (position + 1)
          if mark = 0 then segmentsFrom data fuel (position + 2) (segment.push 255) done
          else if mark = 255 then segmentsFrom data fuel (position + 1) segment done
          else if 0xD0 ≤ mark ∧ mark ≤ 0xD7 then
            segmentsFrom data fuel (position + 2) #[] (segment :: done)
          else ((segment :: done).reverse, some position)

end Darkroom.Jpeg
