/-
# Darkroom.Raster.Symmetry -- quarter turns and mirrors

Turns are counter-clockwise.  Each symmetry says where the pixel of the result
comes from, so nothing is computed and nothing is lost.
-/
import Darkroom.Raster.Basic

namespace Darkroom

set_option autoImplicit false

/-- The lossless ways to lay a picture down again. -/
inductive Symmetry
  | quarterTurn
  | halfTurn
  | threeQuarterTurn
  /-- Left and right change places. -/
  | mirror
  /-- Top and bottom change places. -/
  | upsideDown
  deriving DecidableEq, Inhabited, Repr

namespace Raster

def transformed (r : Raster) : Symmetry → Raster
  | .quarterTurn => r.remap r.height r.width fun x y c => r.byteAt (r.width - 1 - y) x c
  | .halfTurn => r.remap r.width r.height fun x y c =>
      r.byteAt (r.width - 1 - x) (r.height - 1 - y) c
  | .threeQuarterTurn => r.remap r.height r.width fun x y c => r.byteAt y (r.height - 1 - x) c
  | .mirror => r.remap r.width r.height fun x y c => r.byteAt (r.width - 1 - x) y c
  | .upsideDown => r.remap r.width r.height fun x y c => r.byteAt x (r.height - 1 - y) c

end Raster

end Darkroom
