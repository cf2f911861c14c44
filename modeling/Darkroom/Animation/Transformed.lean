/-
# Darkroom.Animation.Transformed -- one step on every frame of a file

The frames of a file are laid over each other on a canvas of the size of the
first one, so every canvas shows a whole picture.  The step runs on each canvas,
the result is reduced to the fixed palette, and the timings are taken over as
they are.

An animation file whose step the scaling policy declines is not touched; any
other file becomes an animation of its natural size then.
-/
import Darkroom.Encoding
import Darkroom.Step

namespace Darkroom

set_option autoImplicit false

namespace Animation

/-- The canvases in order: each frame laid over those before it. -/
def canvasesFrom (canvas : Raster) : List Frame → List Raster
  | [] => []
  | f :: rest =>
      let next := canvas.overlaid f.picture
      next :: canvasesFrom next rest

/-- An RGBA canvas with nothing on it. -/
def emptyCanvas (width height : Nat) : Raster := .ofPixels width height fun _ _ => .transparent

/-- The canvases of a file whose first frame has the size given. -/
def canvases (width height : Nat) (frames : List Frame) : List Raster :=
  canvasesFrom (emptyCanvas width height) frames

/-- What becomes of one canvas. -/
def transformedCanvas (step : Step) (o : Options) (policy : Bool) (canvas : Raster) :
    Logged Raster := do
  let r ← if policy then step.runScaled o canvas else step.run canvas
  r.paletted 256

/-- The results of the canvases in order. -/
def transformedCanvases (step : Step) (o : Options) (policy : Bool) :
    List Raster → Logged (List Raster)
  | [] => return []
  | canvas :: rest => do
      let r ← transformedCanvas step o policy canvas
      return r :: (← transformedCanvases step o policy rest)

/-- The size that pictures share: that of the first. -/
def sharedSize (pictures : List Raster) : Nat × Nat :=
  match pictures with
  | [] => (0, 0)
  | r :: _ => (r.width, r.height)

/-- The animation of a file with the step run on every frame.  Damage is met
after the frames that could be read. -/
def transformed (c : Container) (first : Frame) (step : Step) (o : Options) (policy : Bool) :
    Logged Animation := do
  let width := first.picture.width
  let height := first.picture.height
  let pictures ← transformedCanvases step o policy (canvases width height c.frames)
  if let some d := c.damage then Logged.fail d.fault
  let (newWidth, newHeight) := sharedSize pictures
  Logged.note (.framesTransformed pictures.length step.title width height newWidth newHeight)
  ofPictures pictures (c.frames.map (·.timing)) newWidth newHeight c.loop

/-- What a request on a file comes to, before anything is written. -/
inductive Result
  /-- The answer is the file itself. -/
  | unchanged
  | animation (a : Animation)

/-- The policy declines a step for an animation file. -/
def declines (c : Container) (step : Step) (o : Options) (factor : Double) : Bool :=
  step.resamples && c.isAnimationFile && !Scaling.runs factor o.upscale.truthy

/-- Run a step on an opened file. -/
def ofOpened (s : Opened) (step : Step) (o : Options) (policy : Bool) : Logged Result := do
  let c ← s.container
  match c.frames with
  | [] => Logged.fail ((c.damage.map (·.fault)).getD .undecodableFrame)
  | first :: _ =>
      if policy && step.resamples then
        let factor ← Step.policyFactor o first.picture
        if declines c step o factor then
          Logged.note (.animationPassedThrough factor)
          return .unchanged
      return .animation (← transformed c first step o policy)

end Animation

end Darkroom
