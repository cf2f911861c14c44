/-
# Darkroom.Color.Seed -- the first labels of a clustering

The pixels are ranked by luma, equal ones in the order they come, and the
ranking is cut into as many runs as there are clusters, as even as whole
numbers allow.  Luma is computed in single precision; since it is not negative,
its bits order as its value does, and the ranking compares those.

A label is computed in 64 bits and kept in 32; what does not fit wraps around.  Numbers
of clusters that 64 bits cannot hold do not occur.
-/
import Darkroom.Color.Rgb

namespace Darkroom.Cluster

set_option autoImplicit false

/-- The luma of a colour in single precision. -/
def luma (c : Rgb) : Float32 :=
  c.red.toFloat32 * 0.299 + c.green.toFloat32 * 0.587 + c.blue.toFloat32 * 0.114

/-- A whole number that orders colours as their luma does. -/
def lumaRank (c : Rgb) : Nat := (luma c).toBits.toNat

/-- The positions of the pixels in the order of their luma, equal ones in the
order they come. -/
def ranking (pixels : Array Rgb) : List Nat :=
  let ranks := pixels.map lumaRank
  (List.range pixels.size).mergeSort fun i j => ranks.getD i 0 ≤ ranks.getD j 0

/-- The label of the pixel at rank `i` of `n`. -/
def labelOfRank (clusters n i : Nat) : Int32 :=
  Int32.ofInt ((Int64.ofNat (i * clusters)).toInt.fdiv n)

/-- The label of each pixel. -/
def seedLabels (pixels : Array Rgb) (clusters : Nat) : Array Int32 :=
  (ranking pixels).zipIdx.foldl
    (fun labels (position, rank) =>
      labels.setIfInBounds position (labelOfRank clusters pixels.size rank))
    (Array.replicate pixels.size 0)

end Darkroom.Cluster
