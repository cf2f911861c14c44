/-
# Darkroom.Scaling -- when a picture is resampled at all

A picture is resampled when that makes it smaller, or when the caller allows
enlarging.  The test is made on one number, the factor by which the source has
to grow to cover the box asked for: the larger of the two side ratios.  A side
that is zero has ratio zero and does not count.
-/
import Darkroom.Fault

namespace Darkroom.Scaling

set_option autoImplicit false

/-- The larger of two ratios, the first when they are equal. -/
def larger (x y : Double) : Double := if x.lt y then y else x

/-- The factor that makes a source cover a box. -/
def factor (sourceWidth sourceHeight boxWidth boxHeight : Value) : Outcome Double := do
  let refusal : Outcome Unit := .error (.rejected (.sourceSides sourceWidth sourceHeight))
  let w ← sourceWidth.toNumber
  if w.le (.int 0) then refusal
  let h ← sourceHeight.toNumber
  if h.le (.int 0) then refusal
  let across ← Outcome.ofArithmetic ((← boxWidth.toNumber).div w)
  let down ← Outcome.ofArithmetic ((← boxHeight.toNumber).div h)
  return larger across down

/-- The factor for a source with whole sides. -/
def factorOf (width height : Nat) (boxWidth boxHeight : Value) : Outcome Double :=
  factor (.number (.int width)) (.number (.int height)) boxWidth boxHeight

/-- Whether a resample runs: it makes the picture smaller, or may enlarge it. -/
def runs (factor : Double) (upscale : Bool) : Bool :=
  factor.lt (.finite 1) || upscale

end Darkroom.Scaling
