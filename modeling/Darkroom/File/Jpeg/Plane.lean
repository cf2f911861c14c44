/-
# Darkroom.File.Jpeg.Plane -- brightness and colour in planes of their own

A picture is three planes: its brightness, and how far it is from gray towards
blue and towards red.  The colour planes are half as wide and half as high when
a picture is written.  When it is read, a plane that is half as wide or high is
smoothed: each place takes three parts of the nearest sample and one part of the
next nearest, which beyond the edge is the nearest itself.
-/
import Darkroom.File.Jpeg.Quantum
import Darkroom.Raster.Convert

namespace Darkroom.Jpeg

set_option autoImplicit false

/-! ## Colours -/

/-- The brightness of a colour, and its distances towards blue and red about 128. -/
def planesOf (red green blue : Int) : Int × Int × Int :=
  ((19595 * red + 38470 * green + 7471 * blue + 32768).shiftRight 16,
    (-11059 * red - 21709 * green + 32768 * blue + 8421375).shiftRight 16,
    (32768 * red - 27439 * green - 5329 * blue + 8421375).shiftRight 16)

/-- The colour of a brightness and two distances. -/
def colorOf (y blue red : Int) : UInt8 × UInt8 × UInt8 :=
  let b := blue - 128
  let r := red - 128
  (Channel.clip (y + (91881 * r + 32768).shiftRight 16),
    Channel.clip (y + (-22554 * b - 46802 * r + 32768).shiftRight 16),
    Channel.clip (y + (116130 * b + 32768).shiftRight 16))

/-! ## Planes -/

/-- Samples in blocks, row after row of them. -/
structure Plane where
  /-- The blocks in a row. -/
  across : Nat
  blocks : Array (Array UInt8)
  /-- The part of the plane that has samples of the picture. -/
  width : Nat
  height : Nat

namespace Plane

/-- The sample at a place; one beyond the edge is that on the edge. -/
def sample (p : Plane) (x y : Nat) : Int :=
  let x := min x (p.width - 1)
  let y := min y (p.height - 1)
  let block := p.blocks.getD (y / 8 * p.across + x / 8) #[]
  ((block.getD (y % 8 * 8 + x % 8) 0).toNat : Nat)

/-- The sample next to that at place `i` of a doubled side: the one before for
the first of two, the one behind for the second. -/
def beside (i : Nat) : Nat := if i % 2 = 0 then i / 2 - 1 else i / 2 + 1

/-- Three parts of a sample and one of that above or below, doubled in height. -/
def tall (p : Plane) (x y : Nat) : Int := 3 * p.sample x (y / 2) + p.sample x (beside y)

/-- The sample of the picture at `x`, `y`, where the plane is `right` times
narrower and `down` times lower.  Planes of at most two samples across are not
smoothed in width. -/
def spread (p : Plane) (right down x y : Nat) : Int :=
  let early := x % 2 = 0
  match right, down with
  | 2, 1 =>
      if p.width ≤ 2 then p.sample (x / 2) y
      else (3 * p.sample (x / 2) y + p.sample (beside x) y + if early then 1 else 2).shiftRight 2
  | 2, 2 =>
      if p.width ≤ 2 then p.sample (x / 2) (y / 2)
      else (3 * p.tall (x / 2) y + p.tall (beside x) y + if early then 8 else 7).shiftRight 4
  | 1, 2 => (p.tall x y + if y % 2 = 0 then 1 else 2).shiftRight 2
  | _, _ => p.sample (x / right) (y / down)

/-- Coefficients as a block of samples. -/
def samplesOf (coefficients : Block) : Array UInt8 :=
  (Cosine.samples coefficients).map fun n => Channel.clip (n + 128)

end Plane

/-! ## Writing and reading back -/

/-- A plane as it is written: the multiples that are kept of its coefficients. -/
structure Kept where
  steps : Steps
  width : Nat
  height : Nat
  /-- The blocks in a row. -/
  across : Nat
  blocks : Array Block

namespace Kept

/-- What is kept of the samples `f`, in so many blocks across and down. -/
def ofSamples (steps : Steps) (width height across down : Nat) (f : Nat → Nat → Int) : Kept where
  steps
  width
  height
  across
  blocks := Array.ofFn (n := across * down) fun i =>
    let left := i.val % across * 8
    let top := i.val / across * 8
    let block : Block := Array.ofFn (n := 64) fun k =>
      f (left + k.val % 8) (top + k.val / 8) - 128
    (Cosine.coefficients block).reduced steps

/-- The plane that is read again. -/
def plane (k : Kept) : Plane where
  across := k.across
  blocks := k.blocks.map fun b => Plane.samplesOf (b.restored k.steps)
  width := k.width
  height := k.height

end Kept

/-- The sample of a plane of half the size: the mean of four, rounded down and up
by turns. -/
def halved (width height : Nat) (f : Nat → Nat → Int) (x y : Nat) : Int :=
  let y := min y ((height + 1) / 2 - 1)
  let at_ := fun dx dy => f (min (2 * x + dx) (width - 1)) (min (2 * y + dy) (height - 1))
  (at_ 0 0 + at_ 1 0 + at_ 0 1 + at_ 1 1 + if x % 2 = 0 then 1 else 2).shiftRight 2

/-- The planes of a picture as they are written. -/
structure Written where
  width : Nat
  height : Nat
  brightness : Kept
  blue : Kept
  red : Kept

namespace Written

/-- The groups of blocks, sixteen samples wide, that a side takes. -/
def groups (side : Nat) : Nat := (side + 15) / 16

/-- An RGB picture in a quality. -/
def ofRaster (r : Raster) (quality : Int) : Written :=
  let width := r.width
  let height := r.height
  let planes := Array.ofFn (n := width * height) fun i =>
    let at_ := fun c => ((r.byteAt (i.val % width) (i.val / width) c).toNat : Int)
    planesOf (at_ 0) (at_ 1) (at_ 2)
  let at_ := fun x y =>
    planes.getD (min y (height - 1) * width + min x (width - 1)) (0, 0, 0)
  let across := groups width
  let down := groups height
  let half := fun f => Kept.ofSamples (.scaled .color quality) ((width + 1) / 2) ((height + 1) / 2)
    across down (halved width height f)
  { width, height
    brightness := .ofSamples (.scaled .brightness quality) width height (2 * across) (2 * down)
      fun x y => (at_ x y).1
    blue := half fun x y => (at_ x y).2.1
    red := half fun x y => (at_ x y).2.2 }

/-- The picture as it is read again. -/
def picture (w : Written) : Raster :=
  let bright := w.brightness.plane
  let blue := w.blue.plane
  let red := w.red.plane
  let colors := Array.ofFn (n := w.width * w.height) fun i =>
    let x := i.val % w.width
    let y := i.val / w.width
    colorOf (bright.sample x y) (blue.spread 2 2 x y) (red.spread 2 2 x y)
  Raster.tabulate .rgb w.width w.height fun x y c =>
    let color := colors.getD (y * w.width + x) (0, 0, 0)
    if c = 0 then color.1 else if c = 1 then color.2.1 else color.2.2

end Written

/-- An RGB picture as it is found again after it has been written in a quality. -/
def settled (r : Raster) (quality : Int) : Raster := (Written.ofRaster r quality).picture

end Darkroom.Jpeg
