/-
# Darkroom.Color.Brightness -- luminance and the score that picks a mark

`relativeLuminance` is the weighted sum of the three linearised channels.
`markScore` looks at the first channel only and is linear above its threshold;
it is what the choice between the two marks is calibrated against, and it is
not a luminance.
-/
import Darkroom.Color.Swatch

namespace Darkroom.Brightness

set_option autoImplicit false

/-- Channels up to this share of the full range are divided, not bent. -/
def linearShare : Double := .ofRat (3928 / 100000)

/-- A channel as a share of the full range. -/
def share (channel : Number) : Outcome Double :=
  Outcome.ofArithmetic (channel.div (.int 255))

private def overSlope (v : Double) : Double :=
  (v.div? (.ofRat (1292 / 100))).getD .nan

/-- The least number whose power of 2.4 is beyond all numbers. -/
def blinding : Float := .ofBits 0x5A9965FEA53D6E8B

/-- The light that a channel stands for. -/
def linearize (channel : Number) : Outcome Float := do
  let v ← share channel
  if v.le linearShare then return (overSlope v).toFloat
  let bent := (v.toFloat + 0.055) / 1.055
  if blinding ≤ bent then .error (.arithmetic .overflow) else return bent.pow 2.4

/-- The weight of red, green and blue in the luminance. -/
def weights : List Float := [0.2126, 0.7152, 0.0722]

/-- The relative luminance of three channels, in [0, 1] for channels in range. -/
def relativeLuminance (channels : List Value) : Outcome Double := do
  if channels.length ≠ 3 then .error (.rejected (.channelCount channels.length))
  let lights ← channels.mapM fun c => do linearize (← c.toNumber)
  return .ofFloat ((weights.zip lights).foldl (fun sum (w, light) => sum + w * light) 0)

/-- The score of a colour by its first channel. -/
def channelScore (channel : Number) : Outcome Double := do
  let v ← share channel
  if v.le linearShare then return overSlope v
  let raised := v.add (.ofRat (55 / 100))
  return ((raised.div? (.ofRat (1055 / 1000))).getD .nan).mul (.ofRat 2)

def markScore (channels : List Value) : Outcome Double :=
  match channels with
  | [] => .error (.rejected .noChannels)
  | first :: _ => do channelScore (← first.toNumber)

/-- Scores above this pick the coloured mark. -/
def markThreshold : Double := .ofRat (190 / 100)

end Darkroom.Brightness
