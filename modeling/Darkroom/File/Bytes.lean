/-
# Darkroom.File.Bytes -- numbers in runs of bytes

A number of several bytes is read with its low byte first or its high byte
first, and is there only when all its bytes are.
-/

namespace Darkroom

set_option autoImplicit false

abbrev Bytes := Array UInt8

namespace Bytes

/-- The byte at a position, zero behind the end. -/
def at0 (b : Bytes) (i : Nat) : Nat := (b.getD i 0).toNat

/-- The `count` bytes from `start` on, fewer where the run ends. -/
def slice (b : Bytes) (start count : Nat) : Bytes := b.extract start (start + count)

/-- Bytes as a number, low byte first. -/
def low (b : Bytes) : Nat := b.foldr (fun x n => x.toNat + 256 * n) 0

/-- Bytes as a number, high byte first. -/
def high (b : Bytes) : Nat := b.foldl (fun n x => 256 * n + x.toNat) 0

/-- Which byte of a number comes first. -/
inductive Order
  | lowFirst
  | highFirst
  deriving DecidableEq, Inhabited

/-- The number of `count` bytes at `start`. -/
def number? (b : Bytes) (order : Order) (start count : Nat) : Option Nat :=
  if start + count ≤ b.size then
    let bytes := b.slice start count
    some (match order with
      | .lowFirst => low bytes
      | .highFirst => high bytes)
  else none

def low16? (b : Bytes) (start : Nat) : Option Nat := b.number? .lowFirst start 2

def low32? (b : Bytes) (start : Nat) : Option Nat := b.number? .lowFirst start 4

def high16? (b : Bytes) (start : Nat) : Option Nat := b.number? .highFirst start 2

def high32? (b : Bytes) (start : Nat) : Option Nat := b.number? .highFirst start 4

/-- The number that up to sixteen bits from a bit position on write, low bit
first; the low bit of a byte comes first. -/
def lowBits? (b : Bytes) (position count : Nat) : Option Nat :=
  if position + count ≤ 8 * b.size then
    let start := position / 8
    let word := b.at0 start + 256 * (b.at0 (start + 1) + 256 * b.at0 (start + 2))
    some (word >>> (position % 8) % Nat.pow 2 count)
  else none

/-- The run has these bytes at `start`. -/
def hasAt (b : Bytes) (start : Nat) (expected : List UInt8) : Bool :=
  (b.slice start expected.length).toList = expected

def startsWith (b : Bytes) (expected : List UInt8) : Bool := b.hasAt 0 expected

/-- The bytes of a text of plain letters. -/
def ofAscii (s : String) : List UInt8 := s.toList.map fun c => UInt8.ofNat c.toNat

/-- A number as `count` bytes, low byte first. -/
def ofLow : Nat → Nat → List UInt8
  | 0, _ => []
  | count + 1, n => UInt8.ofNat (n % 256) :: ofLow count (n / 256)

/-- A number as `count` bytes, high byte first. -/
def ofHigh (count n : Nat) : List UInt8 := (ofLow count n).reverse

end Bytes

end Darkroom
