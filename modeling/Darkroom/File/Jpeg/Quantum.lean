/-
# Darkroom.File.Jpeg.Quantum -- how coarsely coefficients are kept

Each of the 64 coefficients of a block is kept as a multiple of a step.  The
steps of quality 50 are the standard ones, one table for brightness and one for
colour; other qualities scale them.
-/
import Darkroom.File.Jpeg.Cosine

namespace Darkroom.Jpeg

set_option autoImplicit false

/-- The steps of a block, row by row. -/
abbrev Steps := Array Nat

namespace Steps

def brightness : Steps := #[
  16, 11, 10, 16, 24, 40, 51, 61, 12, 12, 14, 19, 26, 58, 60, 55,
  14, 13, 16, 24, 40, 57, 69, 56, 14, 17, 22, 29, 51, 87, 80, 62,
  18, 22, 37, 56, 68, 109, 103, 77, 24, 35, 55, 64, 81, 104, 113, 92,
  49, 64, 78, 87, 103, 121, 120, 101, 72, 92, 95, 98, 112, 100, 103, 99]

def color : Steps := #[
  17, 18, 24, 47, 99, 99, 99, 99, 18, 21, 26, 66, 99, 99, 99, 99,
  24, 26, 56, 99, 99, 99, 99, 99, 47, 66, 99, 99, 99, 99, 99, 99,
  99, 99, 99, 99, 99, 99, 99, 99, 99, 99, 99, 99, 99, 99, 99, 99,
  99, 99, 99, 99, 99, 99, 99, 99, 99, 99, 99, 99, 99, 99, 99, 99]

/-- What a quality scales the standard steps by, in hundredths.  Qualities are
held to 1 and 100; minus one stands for 75. -/
def scale (quality : Int) : Nat :=
  let q := if quality = -1 then 75 else (max 1 (min 100 quality)).toNat
  if q < 50 then 5000 / q else 200 - 2 * q

/-- The steps of a quality, from 1 to 255. -/
def scaled (standard : Steps) (quality : Int) : Steps :=
  standard.map fun s => max 1 (min 255 ((s * scale quality + 50) / 100))

end Steps

/-- The nearest multiple of a step, a half away from zero, for a coefficient that
is eight times too large. -/
def nearestMultiple (step : Nat) (n : Int) : Int :=
  n.sign * ((n.natAbs + 4 * step) / (8 * step) : Nat)

/-- The multiples that are kept of coefficients eight times too large. -/
def Block.reduced (b : Block) (steps : Steps) : Block :=
  b.mapIdx fun i n => nearestMultiple (steps.getD i 1) n

/-- The coefficients that multiples stand for. -/
def Block.restored (b : Block) (steps : Steps) : Block :=
  b.mapIdx fun i n => n * (steps.getD i 1 : Nat)

end Darkroom.Jpeg
