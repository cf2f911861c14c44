/-
# Darkroom.Raster.Composite -- one picture laid over another

A see-through pixel leaves what is below it as it is, hidden colour included.
Any other pixel is blended: alpha and colour are the exact blend in 255ths,
kept to seven more bits and rounded to the nearest byte.
-/
import Darkroom.Raster.Convert

namespace Darkroom

set_option autoImplicit false

namespace Rgba

def transparent : Rgba := ⟨0, 0, 0, 0⟩

/-- A sum of products with 255, divided by 255 again. -/
def shed (v : Nat) : Nat := (v / 256 + v) / 256

/-- The pixel `top` over the pixel `below`. -/
def above (top below : Rgba) : Rgba :=
  if top.alpha = 0 then below
  else
    let a := top.alpha.toNat
    let rest := below.alpha.toNat * (255 - a)
    let sum := a * 255 + rest
    let topShare := a * 255 * 255 * 128 / sum
    let belowShare := 255 * 128 - topShare
    let blend := fun s d : UInt8 =>
      UInt8.ofNat (shed (s.toNat * topShare + d.toNat * belowShare + 128 * 128) / 128)
    ⟨blend top.red below.red, blend top.green below.green, blend top.blue below.blue,
      UInt8.ofNat (shed (sum + 128))⟩

end Rgba

namespace Raster

/-- Lay a picture over an RGBA canvas with their top left corners together;
what sticks out is cut off. -/
def overlaid (canvas layer : Raster) : Raster :=
  ofPixels canvas.width canvas.height fun x y =>
    if x < layer.width ∧ y < layer.height then
      (layer.pixelAt x y).above (canvas.pixelAt x y)
    else canvas.pixelAt x y

end Raster

end Darkroom
