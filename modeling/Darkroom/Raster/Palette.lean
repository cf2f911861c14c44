/-
# Darkroom.Raster.Palette -- the fixed palette of animations

The palette has 256 colours: a cube of four levels each of red, green and blue,
every cell of the cube in four brightnesses.  Grays fill the black cell.
-/
import Darkroom.Raster.Basic

namespace Darkroom.Palette

set_option autoImplicit false

/-- The colour of a cube cell in one brightness. -/
def cubeColor (r v g b : Nat) : Nat × Nat × Nat :=
  let largest := max r (max g b)
  if largest = 0 then (17 * v, 17 * v, 17 * v)
  else
    let level := 17 * (4 * largest + v)
    (r * level / largest, g * level / largest, b * level / largest)

/-- The 256 colours in order. -/
def fixedColors : List (Nat × Nat × Nat) :=
  (List.range 256).map fun i => cubeColor (i / 64) (i / 16 % 4) (i / 4 % 4) (i % 4)

/-- The fixed palette. -/
def fixed : Palette :=
  ⟨(fixedColors.map fun c => (UInt8.ofNat c.1, UInt8.ofNat c.2.1, UInt8.ofNat c.2.2)).toArray⟩

/-- The bytes of a palette, red first. -/
def bytes (p : Palette) : List UInt8 :=
  p.colors.toList.flatMap fun c => [c.1, c.2.1, c.2.2]

/-- The palette without the colours whose three bytes are not all among the
first `count` bytes; a negative count leaves so many bytes off the end. -/
def cut (p : Palette) (count : Int) : Palette :=
  let total : Int := 3 * p.colors.size
  let kept := if count < 0 then max 0 (total + count) else min total count
  ⟨p.colors.take (kept / 3).toNat⟩

end Darkroom.Palette
