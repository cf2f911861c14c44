/-
# Darkroom.Engine -- from a source and a request to a file

A request is settled in two stages.  `prepare` looks at the options, the source
and the scaling policy and comes to what there is to write: the source itself,
one picture, or an animation.  `Prepared.finish` turns that into an encoding.
Only a JPEG picture asks for marks, and only the second stage has them.

The options are looked at first, then the format, then the parameters of the
step, and the source last, so a request that cannot be met is refused for the
same reason whatever the source.
-/
import Darkroom.Animation.Transformed
import Darkroom.Watermark.Shelf

namespace Darkroom

set_option autoImplicit false

/-- What there is to write. -/
inductive Prepared
  /-- The source itself. -/
  | unchanged
  | still (picture : Raster) (format : Format) (quality : Value)
  | animation (a : Animation)

/-- What a request is answered with. -/
inductive Answer
  /-- The source itself. -/
  | unchanged
  | encoded (e : Encoding)

/-- What was handed to the writer of a format, if anything was. -/
def Answer.encoding? : Answer → Option Encoding
  | .unchanged => none
  | .encoded e => some e

namespace Prepared

/-- Only a JPEG picture is stamped. -/
def needsMarks : Prepared → Bool
  | .still _ .jpeg _ => true
  | _ => false

def finish (p : Prepared) (marks : Option Marks) : Logged Answer :=
  match p with
  | .unchanged => return .unchanged
  | .still picture format quality => do
      return .encoded (← Encoding.ofPicture picture format quality marks)
  | .animation a => do return .encoded (← Encoding.ofAnimation a)

end Prepared

namespace Engine

/-- Frames have to share one size, so on an animation fitting fills. -/
def animationStep : Step → Step
  | .fit width height => .thumbnail width height
  | step => step

/-- A request with an animation as its answer. -/
def prepareAnimation (source : Opened) (step : Step) (o : Options) : Logged Prepared := do
  match ← Animation.ofOpened source (animationStep step) o step.resamples with
  | .unchanged => return .unchanged
  | .animation a => return .animation a

/-- A request with one picture as its answer. -/
def prepareStill (source : Opened) (step : Step) (o : Options) (format : Format) :
    Logged Prepared := do
  let (picture, sourceFormat) ← source.still
  if step.resamples then
    let factor ← Step.policyFactor o picture
    if !Scaling.runs factor o.upscale.truthy then
      Logged.note (.passedThrough step.title factor)
      return if format = sourceFormat then .unchanged else .still picture format o.quality
  Logged.note (.applying step.title picture.width picture.height sourceFormat)
  return .still (← step.run picture) format o.quality

/-- The format of the answer: the one asked for, or else that of the source. -/
def outputFormat (source : Opened) (requested : Option Format) : Outcome Format :=
  match requested with
  | some f => .ok f
  | none => source.probe

def prepare (source : Opened) (operation : Value) (o : Options) : Logged Prepared := do
  o.validate
  let requested ← o.requestedFormat
  let step ← Step.build operation o
  let format ← outputFormat source requested
  if format = .gif then prepareAnimation source step o
  else prepareStill source step o format

/-- The marks of an engine: those it was given, or else the standard ones. -/
def marks (given : Option Marks) (shelf : Shelf) (look : Lookup) : Logged (Marks × Shelf) :=
  match given with
  | some m => return (m, shelf)
  | none => do
      let (h, shelf) ← shelf.standard look
      return (h.marks, shelf)

/-- Answer a request.  The shelf changes only where the standard marks had to be
loaded. -/
def transform (given : Option Marks) (shelf : Shelf) (look : Lookup) (source : Opened)
    (operation : Value) (o : Options) : Logged Answer × Shelf :=
  let prepared := prepare source operation o
  match prepared.outcome with
  | .error f => (⟨.error f, prepared.entries⟩, shelf)
  | .ok p =>
      if p.needsMarks then
        let marks := marks given shelf look
        let answer := prepared >>= fun p => marks >>= fun got => p.finish (some got.1)
        match marks.outcome with
        | .ok (_, shelf) => (answer, shelf)
        | .error _ => (answer, shelf)
      else (prepared >>= fun p => p.finish none, shelf)

end Engine

end Darkroom
