/-
# Darkroom.Color.Cluster -- grouping colours around centres

From the first labels on, centres and labels are computed in turn: a centre is
the mean of its pixels, and a pixel goes to the nearest centre, the first of
those equally near.  A cluster that has run empty takes the pixel farthest from
the mean of the largest cluster.  It ends when no centre has moved by more than
one, or after a fixed number of rounds; the labels then stay as they are.
Means and distances are in single precision, added up in pixel order.
-/
import Darkroom.Color.Seed

namespace Darkroom.Cluster

set_option autoImplicit false

/-- A point in colour space. -/
structure Point where
  red : Float32
  green : Float32
  blue : Float32
  deriving Inhabited

namespace Point

def ofRgb (c : Rgb) : Point := ⟨c.red.toFloat32, c.green.toFloat32, c.blue.toFloat32⟩

def zero : Point := ⟨0, 0, 0⟩

def add (p q : Point) : Point := ⟨p.red + q.red, p.green + q.green, p.blue + q.blue⟩

def sub (p q : Point) : Point := ⟨p.red - q.red, p.green - q.green, p.blue - q.blue⟩

def times (p : Point) (s : Float32) : Point := ⟨p.red * s, p.green * s, p.blue * s⟩

/-- The squared distance in single precision. -/
def distance (p q : Point) : Float32 :=
  let d := p.sub q
  d.red * d.red + d.green * d.green + d.blue * d.blue

/-- The squared distance of two centres, squares and sums in double precision. -/
def shift (p q : Point) : Float :=
  let d := p.sub q
  let r := d.red.toFloat
  let g := d.green.toFloat
  let b := d.blue.toFloat
  0 + r * r + g * g + b * b

end Point

/-- The sum and the number of the pixels of each cluster. -/
structure Totals where
  sums : Array Point
  counts : Array Nat
  deriving Inhabited

def totals (pixels : Array Rgb) (labels : Array Nat) (clusters : Nat) : Totals :=
  (List.range pixels.size).foldl (fun t i =>
    let k := labels.getD i 0
    let p := Point.ofRgb (pixels.getD i default)
    ⟨t.sums.modify k (·.add p), t.counts.modify k (· + 1)⟩)
    ⟨Array.replicate clusters .zero, Array.replicate clusters 0⟩

/-- The position of the largest count, the first of equal ones. -/
def largest (counts : Array Nat) : Nat :=
  (List.range counts.size).foldl
    (fun best k => if counts.getD best 0 < counts.getD k 0 then k else best) 0

/-- The reciprocal of a count in single precision. -/
def reciprocal (count : Nat) : Float32 := 1 / count.toFloat32

/-- The pixel of a cluster farthest from its mean, the last of those equally far. -/
def farthest (pixels : Array Rgb) (labels : Array Nat) (cluster : Nat) (mean : Point) : Nat :=
  ((List.range pixels.size).foldl (fun (best : Nat × Float32) i =>
    if labels.getD i 0 = cluster then
      let d := (Point.ofRgb (pixels.getD i default)).distance mean
      if best.2 ≤ d then (i, d) else best
    else best) (0, 0)).1

/-- Give each empty cluster a pixel of the largest one. -/
def fillEmpty (pixels : Array Rgb) (labels : Array Nat) (t : Totals) (clusters : Nat) :
    Array Nat × Totals :=
  (List.range clusters).foldl (fun (labels, t) k =>
    if t.counts.getD k 0 ≠ 0 then (labels, t)
    else
      let donor := largest t.counts
      let mean := (t.sums.getD donor .zero).times (reciprocal (t.counts.getD donor 0))
      let i := farthest pixels labels donor mean
      let p := Point.ofRgb (pixels.getD i default)
      (labels.setIfInBounds i k,
        ⟨(t.sums.modify donor (·.sub p)).modify k (·.add p),
          (t.counts.modify donor (· - 1)).modify k (· + 1)⟩)) (labels, t)

/-- The mean of each cluster. -/
def means (t : Totals) : Array Point :=
  Array.ofFn (n := t.sums.size) fun k =>
    t.sums[k].times (reciprocal (t.counts.getD k.val 0))

/-- The centre nearest to a point, the first of those equally near. -/
def nearest (centers : Array Point) (p : Point) : Nat :=
  let first := p.distance (centers.getD 0 .zero)
  ((List.range centers.size).foldl (fun (best : Nat × Float32) k =>
    let d := p.distance (centers.getD k .zero)
    if d < best.2 then (k, d) else best) (0, first)).1

/-- The largest move of a centre, as a squared distance. -/
def largestShift (old new : Array Point) : Float :=
  (List.range new.size).foldl (fun m k =>
    let d := (new.getD k .zero).shift (old.getD k .zero)
    if m < d then d else m) 0

structure Grouping where
  labels : Array Nat
  centers : Array Point
  deriving Inhabited

/-- The rounds that are left, after a round that gave the centres `old`. -/
def rounds (pixels : Array Rgb) (clusters : Nat) (labels : Array Nat) (old : Array Point) :
    Nat → Grouping
  | 0 => ⟨labels, old⟩
  | left + 1 =>
      let (labels, t) := fillEmpty pixels labels (totals pixels labels clusters) clusters
      let centers := means t
      if left = 0 || (!old.isEmpty && largestShift old centers ≤ 1) then ⟨labels, centers⟩
      else
        let labels := pixels.map fun c => nearest centers (.ofRgb c)
        rounds pixels clusters labels centers left

/-- The most rounds that are run; one cluster needs no more than two. -/
def roundLimit (clusters : Nat) : Nat := if clusters = 1 then 2 else 20

/-- The labels that the first round starts from. -/
def firstLabels (pixels : Array Rgb) (clusters : Nat) : Array Nat :=
  (seedLabels pixels clusters).map fun label => label.toInt.toNat

/-- Group the pixels into a positive number of clusters. -/
def group (pixels : Array Rgb) (clusters : Nat) : Grouping :=
  rounds pixels clusters (firstLabels pixels clusters) #[] (roundLimit clusters)

end Darkroom.Cluster
