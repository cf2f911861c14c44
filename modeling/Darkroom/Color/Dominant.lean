/-
# Darkroom.Color.Dominant -- the colour that stands for a picture

The picture is made smaller until its long edge fits the sample size, and its
invisible pixels are left out unless all are invisible.  When few colours are
left the most frequent one is the answer, the smallest of those equally
frequent; otherwise the colours are grouped and the centre of the largest group
is the answer.  A picture without pixels has no colour.
-/
import Darkroom.Raster.Resample
import Darkroom.Color.Cluster

namespace Darkroom.Dominant

set_option autoImplicit false

/-- The number of groups, unless the caller asks for another. -/
def defaultClusters : Int := 4

/-- The longest edge that is looked at, unless the caller asks for another. -/
def defaultSample : Int := 256

/-! ## The sample -/

/-- Whichever neighbour of `v` has the smaller key, the lower one when they are
equal, and never less than one. -/
def roundBy (v : Double) (key : Int → Outcome Double) : Outcome Int := do
  let q := v.toRat?.getD 0
  let low := q.floor
  let high := -(-q).floor
  if (← key high).lt (← key low) then return max 1 high else return max 1 low

private def magnitude (x : Double) : Double := if x.isNegative then x.neg else x

/-- The size of a picture inside a square, its proportions kept. -/
def sampleSize (width height : Nat) (edge : Int) : Outcome (Int × Int) := do
  let div (a b : Int) : Outcome Double := Outcome.ofArithmetic (Number.div (.int a) (.int b))
  let aspect ← div width height
  let square ← div edge edge
  let side := Double.ofRat edge
  if aspect.le square then
    let w ← roundBy (side.mul aspect) fun n => do return magnitude (aspect.sub (← div n edge))
    return (w, edge)
  else
    let down ← Outcome.ofArithmetic (Number.div (.int edge) (.real aspect))
    let h ← roundBy down fun n => do
      if n = 0 then return .finite 0 else return magnitude (aspect.sub (← div edge n))
    return (edge, h)

/-- The picture in RGBA, made smaller when its long edge is over the sample size. -/
def sample (r : Raster) (edge : Int) : Outcome Raster := do
  let rgba ← r.toRgba
  if (max rgba.width rgba.height : Int) > edge then
    let (w, h) ← sampleSize rgba.width rgba.height edge
    rgba.resized .bilinear (.whole rgba) (.int w) (.int h)
  else return rgba

/-- The colours of the visible pixels, or of all pixels when none is visible. -/
def visibleColors (r : Raster) : Array Rgb :=
  let pixels := Array.ofFn (n := r.width * r.height) fun i =>
    r.pixelAt (i.val % r.width) (i.val / r.width)
  let visible := pixels.filter (·.alpha != 0)
  let seen := if visible.isEmpty then pixels else visible
  seen.map fun p => ⟨p.red, p.green, p.blue⟩

/-! ## Counting -/

/-- A number that orders colours by red, then green, then blue. -/
def code (c : Rgb) : Nat := c.red.toNat * 65536 + c.green.toNat * 256 + c.blue.toNat

/-- The runs of equal numbers, each with its length. -/
def runs : List Nat → List (Nat × Nat)
  | [] => []
  | c :: rest => go c 1 rest []
where
  go (c n : Nat) : List Nat → List (Nat × Nat) → List (Nat × Nat)
    | [], done => ((c, n) :: done).reverse
    | d :: rest, done => if d = c then go c (n + 1) rest done else go d 1 rest ((c, n) :: done)

/-- The distinct colours in order, each with the number of its pixels. -/
def tally (colors : Array Rgb) : List (Nat × Nat) :=
  runs ((colors.toList.map code).mergeSort (· ≤ ·))

/-- The most frequent colour, the first of those equally frequent. -/
def mostFrequent (counts : List (Nat × Nat)) : Nat :=
  (counts.foldl (fun best c => if best.2 < c.2 then c else best) (0, 0)).1

/-! ## The answer -/

/-- The nearest byte, a half to the even one. -/
def byteOf (v : Float32) : UInt8 :=
  let low := v.floor
  let n := low.toInt64.toInt
  let part := v - low
  Channel.clip (if part < 0.5 then n else if 0.5 < part then n + 1 else if n % 2 = 0 then n else n + 1)

structure Answer where
  color : Rgb
  /-- The size of the largest group and the number of pixels, when the colours
  were grouped. -/
  grouped : Option (Nat × Nat)

def answer (colors : Array Rgb) (clusters : Int) : Outcome Answer :=
  let counts := tally colors
  if (counts.length : Int) ≤ clusters then
    if colors.isEmpty then .error .noPixels else .ok ⟨.ofNat (mostFrequent counts), none⟩
  else if clusters < 1 then .error .noClusters
  else
    let k := clusters.toNat
    let g := Cluster.group colors k
    let sizes := g.labels.foldl (fun sizes label => sizes.modify label (· + 1)) (Array.replicate k 0)
    let best := Cluster.largest sizes
    let center := g.centers.getD best .zero
    .ok ⟨⟨byteOf center.red, byteOf center.green, byteOf center.blue⟩,
      some (sizes.getD best 0, colors.size)⟩

/-- The colour that stands for a picture. -/
def ofRaster (r : Raster) (clusters edge : Int) : Outcome Answer := do
  answer (visibleColors (← sample r edge)) clusters

end Darkroom.Dominant
