/-
# Darkroom.File.Png.Row -- filtered and interlaced rows

A row is stored as its differences to a guess, which is made from the byte to
the left, the byte above and the byte above left.  Each row says which guess it
takes.  An interlaced picture is stored as seven small pictures, each taken from
it in steps of its own, and the guesses start anew with each of them.
-/
import Darkroom.File.Samples

namespace Darkroom.Png

set_option autoImplicit false

/-- What a byte is guessed from. -/
inductive Guess
  | nothing
  | left
  | above
  /-- The mean of left and above. -/
  | mean
  /-- Whichever of the three is nearest to left plus above less above left. -/
  | nearest
  deriving DecidableEq, Inhabited

namespace Guess

def ofNumber? : Nat → Option Guess
  | 0 => some .nothing
  | 1 => some .left
  | 2 => some .above
  | 3 => some .mean
  | 4 => some .nearest
  | _ => none

/-- The nearest of three bytes to `a + b - c`; left before above before above left. -/
def nearestOf (a b c : Nat) : Nat :=
  let distance := fun (n : Nat) => ((a : Int) + b - c - n).natAbs
  if distance a ≤ distance b ∧ distance a ≤ distance c then a
  else if distance b ≤ distance c then b
  else c

/-- The guessed byte. -/
def byte (g : Guess) (left above corner : UInt8) : UInt8 :=
  match g with
  | .nothing => 0
  | .left => left
  | .above => above
  | .mean => UInt8.ofNat ((left.toNat + above.toNat) / 2)
  | .nearest => UInt8.ofNat (nearestOf left.toNat above.toNat corner.toNat)

/-- A row from its differences and the row above; `step` is the distance to the
byte on the left. -/
def row (g : Guess) (step : Nat) (before stored : Bytes) : Bytes :=
  stored.foldl (fun (done : Bytes) b =>
    let i := done.size
    let left := if i < step then 0 else done.getD (i - step) 0
    let corner := if i < step then 0 else before.getD (i - step) 0
    done.push (b + g.byte left (before.getD i 0) corner)) #[]

end Guess

/-- One of the small pictures that a picture is stored as. -/
structure Pass where
  left : Nat
  top : Nat
  stepRight : Nat
  stepDown : Nat
  deriving DecidableEq, Inhabited

namespace Pass

/-- The whole picture at once. -/
def whole : Pass := ⟨0, 0, 1, 1⟩

def interlaced : List Pass :=
  [⟨0, 0, 8, 8⟩, ⟨4, 0, 8, 8⟩, ⟨0, 4, 4, 8⟩, ⟨2, 0, 4, 4⟩, ⟨0, 2, 2, 4⟩, ⟨1, 0, 2, 2⟩, ⟨0, 1, 1, 2⟩]

/-- How many columns of a picture are in the pass. -/
def columns (p : Pass) (width : Nat) : Nat := (width + p.stepRight - 1 - p.left) / p.stepRight

def rows (p : Pass) (height : Nat) : Nat := (height + p.stepDown - 1 - p.top) / p.stepDown

/-- The column and row of the pass that hold a pixel of the picture. -/
def place? (p : Pass) (x y : Nat) : Option (Nat × Nat) :=
  if p.left ≤ x ∧ (x - p.left) % p.stepRight = 0 ∧ p.top ≤ y ∧ (y - p.top) % p.stepDown = 0 then
    some ((x - p.left) / p.stepRight, (y - p.top) / p.stepDown)
  else none

end Pass

/-- The shape of the rows of a pass. -/
structure Shape where
  /-- The bytes of a row. -/
  length : Nat
  count : Nat
  /-- The distance to the byte on the left. -/
  step : Nat

namespace Shape

/-- The bytes that the rows take, each with one in front that names its guess. -/
def size (s : Shape) : Nat := s.count * (1 + s.length)

/-- So many bytes are one or more whole rows. -/
def endsRow : List Shape → Nat → Bool
  | [], _ => false
  | s :: rest, count =>
      if count ≤ s.size then 0 < count && count % (1 + s.length) = 0
      else endsRow rest (count - s.size)

/-- The rows from a position on; nothing where a row names no guess.  Rows that
are not stored are left off. -/
def rowsFrom (data : Bytes) (s : Shape) : Nat → Nat → Bytes → Option (List Bytes)
  | 0, _, _ => some []
  | count + 1, start, before =>
      if start + 1 + s.length ≤ data.size then do
        let guess ← Guess.ofNumber? (data.at0 start)
        let row := guess.row s.step before (data.slice (start + 1) s.length)
        let rest ← rowsFrom data s count (start + 1 + s.length) row
        return row :: rest
      else some []

/-- The rows of the passes, one after the other. -/
def rows (data : Bytes) : List Shape → Nat → Option (List (Array Bytes))
  | [], _ => some []
  | s :: rest, start => do
      let first ← rowsFrom data s s.count start #[]
      let others ← rows data rest (start + s.size)
      return first.toArray :: others

end Shape

end Darkroom.Png
