/-
# Darkroom.Watermark -- the mark stamped on pictures

There are two marks, a plain and a coloured one.  The score of the picture's
dominant colour picks one of them; it is laid over the centre of the picture
with its alpha turned down to the opacity, a share of 255.  The picture keeps
its size, and its alpha if it has any.
-/
import Darkroom.Color.Brightness
import Darkroom.Color.Dominant
import Darkroom.Log
import Darkroom.Raster.Composite

namespace Darkroom

set_option autoImplicit false

/-- Which of the two marks. -/
inductive Variant
  | plain
  | colored
  deriving DecidableEq, Inhabited, Repr

namespace Variant

def name : Variant → String
  | .plain => "plain"
  | .colored => "colored"

def all : List Variant := [.plain, .colored]

/-- The variant for a score. -/
def ofScore (score : Double) : Variant :=
  if Brightness.markThreshold.lt score then .colored else .plain

end Variant

/-- An RGBA picture. -/
structure Mark where
  raster : Raster
  isRgba : raster.mode = .rgba

namespace Mark

/-- The picture as a mark; it is converted unless it is RGBA already. -/
def ofRaster (r : Raster) : Outcome Mark :=
  if h : r.mode = .rgba then .ok ⟨r, h⟩
  else if r.isConvertible then .ok ⟨Raster.ofPixels r.width r.height r.pixelAt, rfl⟩
  else .error .noConversion

end Mark

/-- The two marks of an engine. -/
structure Marks where
  plain : Mark
  colored : Mark

namespace Marks

def ofRasters (plain colored : Raster) : Outcome Marks := do
  return ⟨← Mark.ofRaster plain, ← Mark.ofRaster colored⟩

def get (m : Marks) : Variant → Mark
  | .plain => m.plain
  | .colored => m.colored

/-- The mark of a variant that has yet to be recognised. -/
def named (m : Marks) (name : Value) : Outcome Mark :=
  match name with
  | .text s => match Variant.all.find? fun v => v.name == s with
    | some v => .ok (m.get v)
    | none => .error (.rejected (.unknownVariant name))
  | name => .error (.rejected (.unknownVariant name))

end Marks

namespace Watermark

/-- What picks the mark for a picture. -/
structure Choice where
  variant : Variant
  dominant : Dominant.Answer
  score : Double

def colorScore (c : Rgb) : Outcome Double := Brightness.markScore (Swatch.ofRgb c).channels

/-- The dominant colour with what is reported about it. -/
def dominant (base : Raster) (clusters edge : Int) : Logged Dominant.Answer := do
  let answer ← Dominant.ofRaster base clusters edge
  if let some (share, total) := answer.grouped then
    Logged.note (.dominantColor answer.color share total)
  return answer

/-- The mark for a picture. -/
def choose (base : Raster) : Logged Choice := do
  let dominant ← dominant base Dominant.defaultClusters Dominant.defaultSample
  let score ← colorScore dominant.color
  let variant := Variant.ofScore score
  Logged.note (.variantChosen variant.name dominant.color score)
  return ⟨variant, dominant, score⟩

/-- The offset of one axis that lays two centres over each other, each half cut
to a whole number first. -/
def centerOffset (base mark : Int) : Int := base.fdiv 2 - mark.fdiv 2

/-- The share of 255 that a mark's alpha is turned down to. -/
def defaultOpacity : Int := 64

/-- An alpha turned down to an opacity. -/
def faded (alpha : UInt8) (opacity : Int) : UInt8 :=
  Channel.clip (((alpha.toNat : Int) * opacity).fdiv 255)

/-- The pixel of a mark that lies over the place `x`, `y` of a base. -/
def overlayAt (mark : Raster) (left top : Int) (opacity : Int) (x y : Nat) : Rgba :=
  let mx := (x : Int) - left
  let my := (y : Int) - top
  if 0 ≤ mx ∧ mx < mark.width ∧ 0 ≤ my ∧ my < mark.height then
    let p := mark.pixelAt mx.toNat my.toNat
    { p with alpha := faded p.alpha opacity }
  else .transparent

/-- The modes whose stamped picture keeps its alpha. -/
def keepsAlpha (base : Raster) : Bool :=
  base.mode = .rgba || base.mode = .grayAlpha || base.mode = .indexedAlpha ||
    decide (base.transparency ≠ .none)

/-- The base with a mark laid over its centre. -/
def stamped (base : Raster) (mark : Mark) (opacity : Int) : Outcome Raster := do
  let canvas ← base.toRgba
  let left := centerOffset base.width mark.raster.width
  let top := centerOffset base.height mark.raster.height
  let pixel := fun x y => (overlayAt mark.raster left top opacity x y).above (canvas.pixelAt x y)
  if keepsAlpha base then return Raster.ofPixels base.width base.height pixel
  else return Raster.tabulate .rgb base.width base.height fun x y c => (pixel x y).channel c

/-- The base with the mark that its colours pick, and what picked it. -/
def compose (base : Raster) (marks : Marks) (opacity : Int) : Logged (Choice × Raster) := do
  let choice ← choose base
  return (choice, ← stamped base (marks.get choice.variant) opacity)

end Watermark

end Darkroom
