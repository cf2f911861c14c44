/-
# Darkroom.Step -- one operation with its parameters

A `Step` is an operation ready to run on any picture.  Building one checks the
parameters of the two orientation steps; the resample steps take their sides as
given and settle them on the picture: a zero side follows the proportions, and
both zero leave the picture alone.

* `resize` gives exactly the sides asked for.
* `thumbnail` fills them, cutting off what sticks out around the centre.
* `fit` stays inside them and keeps the proportions; it never enlarges.
-/
import Darkroom.Log
import Darkroom.Options
import Darkroom.Operation
import Darkroom.Scaling
import Darkroom.Raster.Resample
import Darkroom.Raster.Symmetry

namespace Darkroom

set_option autoImplicit false

inductive Step
  | resize (width height : Value)
  | thumbnail (width height : Value)
  | fit (width height : Value)
  | rotate (degree : Value) (turn : Symmetry)
  | flip (axis : Value) (turn : Symmetry)

namespace Step

/-! ## Building -/

/-- The turn for a number of degrees counter-clockwise. -/
def turnOf? (degree : Value) : Option Symmetry :=
  match degree.number? with
  | none => none
  | some n =>
      if n.same (.int 90) then some .quarterTurn
      else if n.same (.int 180) then some .halfTurn
      else if n.same (.int 270) then some .threeQuarterTurn
      else none

def rotation (degree : Value) : Outcome Step :=
  match turnOf? degree with
  | some turn => .ok (.rotate degree turn)
  | none => .error (.unsupportedDegree degree)

/-- The mirror for an axis letter. -/
def mirrorOf? : Value → Option Symmetry
  | .text "h" => some .mirror
  | .text "v" => some .upsideDown
  | _ => none

def reflection (axis : Value) : Outcome Step :=
  match mirrorOf? axis with
  | some turn => .ok (.flip axis turn)
  | none => .error (.unsupportedAxis axis)

def ofOperation (operation : Operation) (o : Options) : Outcome Step :=
  match operation with
  | .resize => .ok (.resize o.width o.height)
  | .thumbnail => .ok (.thumbnail o.width o.height)
  | .fit => .ok (.fit o.width o.height)
  | .rotate => rotation o.degree
  | .flip => reflection o.position

/-- The operation that a value names. -/
def operationOf? : Value → Option Operation
  | .text name => Operation.ofName? name
  | _ => none

/-- The step of an operation that has yet to be recognised.  A list or a record
cannot even be looked up. -/
def build (operation : Value) (o : Options) : Outcome Step :=
  match operationOf? operation with
  | some known => ofOperation known o
  | none => match operation with
    | .list _ | .record _ => .error .wrongType
    | other => .error (.rejected (.noStep other))

/-! ## Describing -/

/-- The step obeys the scaling policy. -/
def resamples : Step → Bool
  | .resize _ _ | .thumbnail _ _ | .fit _ _ => true
  | .rotate _ _ | .flip _ _ => false

private def sized (name : String) (w h : Value) : String :=
  name ++ "(" ++ w.plain ++ "x" ++ h.plain ++ ")"

/-- The step with its parameters, as reports show it. -/
def title : Step → String
  | .resize w h => sized "resize" w h
  | .thumbnail w h => sized "thumbnail" w h
  | .fit w h => sized "fit" w h
  | .rotate degree _ => "rotate(" ++ degree.plain ++ ")"
  | .flip axis _ => "flip(" ++ axis.plain ++ ")"

/-! ## Running -/

/-- The sides asked for on a picture, or nothing when both are zero. -/
def targetSides (width height : Value) (r : Raster) : Outcome (Option (Value × Value)) := do
  let o : Options := { width := width, height := height }
  let (w, h) ← o.resolvedSides (.int r.width) (.int r.height)
  if Options.isZero w && Options.isZero h then return none else return some (w, h)

/-- The sides of a picture kept inside a box; nothing when it is inside already. -/
def fitSides (sourceWidth sourceHeight : Nat) (maxWidth maxHeight : Number) :
    Outcome (Option (Number × Number)) := do
  let sw := Number.int sourceWidth
  let sh := Number.int sourceHeight
  if sw.le maxWidth && sh.le maxHeight then return none
  Outcome.ofArithmetic do
    let ratio ← sw.div sh
    let nearest (x : Double) : Except ArithmeticError Number := do
      return .int (max 1 (← Number.truncate (x.add (.ofRat (1 / 2)))))
    if (← maxWidth.div maxHeight).lt ratio then
      return some (maxWidth, ← nearest (← maxWidth.div (.real ratio)))
    else
      return some (← nearest ((← maxHeight.toDouble).mul ratio), maxHeight)

/-- The part of a picture with the proportions of a box, around its centre. -/
def coverRegion (r : Raster) (width height : Number) : Outcome Region := Outcome.ofArithmetic do
  let w := r.width.toFloat
  let h := r.height.toFloat
  let ratio := (← (Number.int r.width).div (.int r.height)).toFloat
  let wanted := (← width.div height).toFloat
  let (cutWidth, cutHeight) :=
    if ratio == wanted then (w, h)
    else if ratio ≥ wanted then (wanted * h, h)
    else (w, w / wanted)
  let left := (w - cutWidth) * 0.5
  let top := (h - cutHeight) * 0.5
  return ⟨⟨left, left + cutWidth⟩, ⟨top, top + cutHeight⟩⟩

def run (step : Step) (r : Raster) : Outcome Raster :=
  match step with
  | .rotate _ turn => .ok (r.transformed turn)
  | .flip _ turn => .ok (r.transformed turn)
  | .resize width height => do
      match ← targetSides width height r with
      | none => return r
      | some (w, h) => r.resized .lanczos (.whole r) (← w.toNumber) (← h.toNumber)
  | .thumbnail width height => do
      match ← targetSides width height r with
      | none => return r
      | some (w, h) =>
          let w ← w.toNumber
          let h ← h.toNumber
          r.resized .lanczos (← coverRegion r w h) w h
  | .fit width height => do
      match ← targetSides width height r with
      | none => return r
      | some (w, h) => match ← fitSides r.width r.height (← w.toNumber) (← h.toNumber) with
        | none => return r
        | some (w, h) => r.resized .lanczos (.whole r) w h

/-- The factor that the scaling policy judges a step by. -/
def policyFactor (o : Options) (r : Raster) : Outcome Double :=
  Scaling.factorOf r.width r.height o.width o.height

/-- Run a step under the scaling policy; where it declines, the picture stays. -/
def runScaled (step : Step) (o : Options) (r : Raster) : Logged Raster := do
  if !step.resamples then step.run r
  else
    let factor ← policyFactor o r
    if Scaling.runs factor o.upscale.truthy then step.run r
    else
      Logged.note (.skipped step.title factor)
      return r

end Step

end Darkroom
