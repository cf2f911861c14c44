/-
# Darkroom.Raster.Dither -- reducing a picture to a palette

Rows go from top to bottom and pixels from left to right.  Each pixel takes,
after the error that its neighbours have passed on is added, the palette entry
nearest to it, and passes on what is left: 7/16 to the right, and 3/16, 5/16
and 1/16 to the three pixels below.

Nearness is judged at the corner of a cell of four values per channel.  Only
those palette entries are looked at that may be nearest somewhere in the cube
of 32 values per channel around the pixel.
-/
import Darkroom.Raster.Convert
import Darkroom.Raster.Palette

namespace Darkroom

set_option autoImplicit false

/-- A value for red, green and blue. -/
structure Triple (α : Type) where
  red : α
  green : α
  blue : α
  deriving DecidableEq, Inhabited

namespace Triple

def map {α β : Type} (f : α → β) (t : Triple α) : Triple β := ⟨f t.red, f t.green, f t.blue⟩

def zip {α β : Type} (s : Triple α) (t : Triple β) : Triple (α × β) :=
  ⟨(s.red, t.red), (s.green, t.green), (s.blue, t.blue)⟩

def sum (t : Triple Nat) : Nat := t.red + t.green + t.blue

end Triple

namespace Palette

/-- The square of the distance of two values. -/
def square (a b : Nat) : Nat := (a - b + (b - a)) * (a - b + (b - a))

def distance (s t : Triple Nat) : Nat := ((s.zip t).map fun p => square p.1 p.2).sum

/-- The entries as triples of numbers. -/
def triples (p : Palette) : List (Triple Nat) :=
  p.colors.toList.map fun c => ⟨c.1.toNat, c.2.1.toNat, c.2.2.toNat⟩

/-- The first of the 32 values of the cube that holds a value. -/
def cubeBase (v : Nat) : Nat := v / 32 * 32

/-- The least distance of a value to the cube of 32 values from `base` on. -/
def nearSquare (v base : Nat) : Nat :=
  if v < base then square v base else if base + 31 < v then square v (base + 31) else 0

/-- The largest distance of a value to that cube. -/
def farSquare (v base : Nat) : Nat :=
  if v ≤ (2 * base + 31) / 2 then square v (base + 31) else square v base

def nearDistance (t base : Triple Nat) : Nat := ((t.zip base).map fun p => nearSquare p.1 p.2).sum

def farDistance (t base : Triple Nat) : Nat := ((t.zip base).map fun p => farSquare p.1 p.2).sum

/-- An entry with its index. -/
abbrev Entry := Nat × Triple Nat

def entries (p : Palette) : List Entry := (List.range p.colors.size).zip p.triples

/-- The entries that may be nearest to some point of a cube. -/
def candidates (entries : List Entry) (base : Triple Nat) : List Entry :=
  match (entries.map fun e => farDistance e.2 base).min? with
  | none => []
  | some reach => entries.filter fun e => nearDistance e.2 base ≤ reach

/-- The entry nearest to a point, the first of those equally near. -/
def closest? (point : Triple Nat) (entries : List Entry) : Option Entry :=
  entries.foldl (fun best e =>
    match best with
    | none => some e
    | some b => if distance e.2 point < distance b.2 point then some e else some b) none

/-- The candidates of all 512 cubes, red cubes changing fastest. -/
structure Chart where
  cubes : Array (List Entry)

def chart (p : Palette) : Chart :=
  let entries := p.entries
  ⟨Array.ofFn (n := 512) fun i =>
    candidates entries ⟨i.val % 8 * 32, i.val / 8 % 8 * 32, i.val / 64 * 32⟩⟩

/-- The corner of the cell of four values that holds a value. -/
def cellCorner (v : Nat) : Nat := v / 4 * 4

/-- The entry that a pixel value takes; without entries, index zero in black. -/
def Chart.nearest (c : Chart) (v : Triple Nat) : Entry :=
  let cube := c.cubes.getD (v.red / 32 + v.green / 32 * 8 + v.blue / 32 * 64) []
  (closest? (v.map cellCorner) cube).getD (0, ⟨0, 0, 0⟩)

end Palette

namespace Dither

/-- The error on its way: to the pixel on the right, to the pixel below, and to
the pixel below on the right. -/
structure Carry where
  ahead : Int
  below : Int
  corner : Int
  deriving DecidableEq, Inhabited

def Carry.zero : Carry := ⟨0, 0, 0⟩

/-- Pass on an error: what the pixel below on the left has now got in all, and
what stays on its way. -/
def Carry.spread (c : Carry) (error : Int) : Int × Carry :=
  (3 * error + c.below, ⟨7 * error, 5 * error + c.corner, error⟩)

/-- A byte with sixteenths of error added, the sixteenths cut towards zero. -/
def corrected (v : UInt8) (error : Int) : Nat :=
  min 255 ((v.toNat : Int) + error.tdiv 16).toNat

structure Row where
  indices : Array UInt8
  errors : Array (Triple Int)
  carry : Triple Carry
  deriving Inhabited

/-- One pixel of a row; `above` is the error the row above has left for it. -/
def Row.next (chart : Palette.Chart) (row : Row) (pixel : Triple UInt8) (above : Triple Int) : Row :=
  let arriving := (row.carry.zip above).map fun p => p.1.ahead + p.2
  let value := (pixel.zip arriving).map fun p => corrected p.1 p.2
  let entry := chart.nearest value
  let left := (value.zip entry.2).map fun p => (p.1 : Int) - (p.2 : Int)
  let spread := (row.carry.zip left).map fun p => p.1.spread p.2
  ⟨row.indices.push (UInt8.ofNat entry.1), row.errors.push (spread.map (·.1)), spread.map (·.2)⟩

/-- What stays on its way at the end of a row.  The channels share the blue
carry there. -/
def Row.tail (row : Row) : Triple Int :=
  ⟨row.carry.blue.below, row.carry.blue.corner, row.carry.blue.corner⟩

/-- One row, with the errors from above; position `x + 1` of these belongs to
pixel `x`. -/
def row (chart : Palette.Chart) (width : Nat) (pixel : Nat → Triple UInt8)
    (above : Array (Triple Int)) : Row :=
  (List.range width).foldl (fun row x => row.next chart (pixel x) (above.getD (x + 1) ⟨0, 0, 0⟩))
    ⟨#[], #[], ⟨.zero, .zero, .zero⟩⟩

/-- The rows from the top, as indices; errors start at zero. -/
def rows (chart : Palette.Chart) (width height : Nat) (pixel : Nat → Nat → Triple UInt8) :
    Array UInt8 :=
  ((List.range height).foldl (fun (done : Array UInt8 × Array (Triple Int)) y =>
    let r := row chart width (fun x => pixel x y) done.2
    (done.1 ++ r.indices, r.errors.push r.tail)) (#[], #[])).1

end Dither

namespace Raster

/-- The chart of the fixed palette. -/
def fixedChart : Palette.Chart := Palette.fixed.chart

/-- An RGB picture reduced to a palette. -/
def dithered (r : Raster) (palette : Palette) (chart : Palette.Chart) : Raster :=
  let indices := Dither.rows chart r.width r.height fun x y =>
    ⟨r.byteAt x y 0, r.byteAt x y 1, r.byteAt x y 2⟩
  { tabulate .indexed r.width r.height fun x y _ => indices.getD (y * r.width + x) 0
    with palette := palette }

/-- The picture reduced to the first colours of the fixed palette, alpha dropped. -/
def paletted (r : Raster) (colors : Int) : Outcome Raster := do
  let rgb ← r.toRgb
  if colors = 256 then return rgb.dithered .fixed fixedChart
  let palette := Palette.fixed.cut (colors * 3)
  return rgb.dithered palette palette.chart

end Raster

end Darkroom
