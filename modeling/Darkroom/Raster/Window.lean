/-
# Darkroom.Raster.Window -- the weights of a resample

A resampled pixel is a weighted mean of the pixels in a window of the source.
The weights come from a filter curve laid over the window, scaled so that they
add up to one; for bytes they are whole multiples of `2 ^ (-22)`.  A `Window`
keeps what the results rest on: it lies inside the source, and its weights add
up to one but for at most 8000 units, which is less than half a byte.
-/

namespace Darkroom

set_option autoImplicit false

inductive Filter
  | lanczos
  | bilinear
  deriving DecidableEq, Inhabited

namespace Filter

/-- How far the curve reaches on each side. -/
def support : Filter → Float
  | .lanczos => 3
  | .bilinear => 1

private def pi : Float := 3.14159265358979323846

private def sinc (x : Float) : Float :=
  if x == 0 then 1
  else
    let t := x * pi
    t.sin / t

def curve (f : Filter) (x : Float) : Float :=
  match f with
  | .lanczos => if -3 ≤ x && x < 3 then sinc x * sinc (x / 3) else 0
  | .bilinear =>
      let d := if x < 0 then 0 - x else x
      if d < 1 then 1 - d else 0

end Filter

/-- The part of one axis of the source that a resample reads, its ends kept in
single precision. -/
structure Span where
  low : Float
  high : Float

namespace Span

def whole (n : Nat) : Span := ⟨0, n.toFloat⟩

def low32 (s : Span) : Float32 := s.low.toFloat32

def high32 (s : Span) : Float32 := s.high.toFloat32

/-- Source pixels for each pixel of a result of `count` pixels. -/
def scale (s : Span) (count : Nat) : Float :=
  (s.high32 - s.low32).toFloat / count.toFloat

/-- Every pixel of an axis of `n` pixels, read at its own place. -/
def isIdentity (s : Span) (n count : Nat) : Bool :=
  n == count && s.low32.toFloat == 0 && s.high32.toFloat == count.toFloat

/-- So many whole pixels, to be kept as they are. -/
def isCut (s : Span) (count : Nat) : Bool :=
  s.low32 == s.low32.floor && s.high32 - s.low32 == count.toFloat32

/-- How many weights are kept for each pixel of the result. -/
def weightCount (s : Span) (f : Filter) (count : Nat) : Nat :=
  let scale := s.scale count
  let stretch := if scale < 1 then 1 else scale
  2 * (f.support * stretch).ceil.toUInt64.toNat + 1

/-- An axis has room for its weights, whatever the filter, when neither the source nor
the result is longer: there are at most `6 * source + 9 * count` weights of eight bytes. -/
def roomyLength : Nat := 0x1000000

/-- The weights of an axis, eight bytes each, fit into memory.  Bytes are counted in
32 bits. -/
def hasRoom (s : Span) (f : Filter) (n count : Nat) : Bool :=
  max n count ≤ roomyLength ||
    (count : Int) ≤ Int.tdiv 0x7FFFFFFF (Int32.ofNat (8 * s.weightCount f count)).toInt

end Span

/-- The first source pixel and the weights for one pixel of the result. -/
structure FloatWindow where
  start : Nat
  weights : List Float
  deriving Inhabited

namespace FloatWindow

/-- The window of result pixel `i` on an axis of `n` source pixels. -/
def of (f : Filter) (s : Span) (n count i : Nat) : FloatWindow :=
  let scale := s.scale count
  let stretch := if scale < 1 then 1 else scale
  let reach := f.support * stretch
  let center := s.low32.toFloat + (i.toFloat + 0.5) * scale
  let first := (center - reach + 0.5).toUInt64.toNat
  let stop := min (center + reach + 0.5).toUInt64.toNat n
  let shrink := 1 / stretch
  let raw := (List.range (stop - first)).map fun k =>
    f.curve (((first + k).toFloat - center + 0.5) * shrink)
  let total := raw.foldl (· + ·) 0
  ⟨first, if total == 0 then raw else raw.map (· / total)⟩

end FloatWindow

/-- One, in the units of whole weights. -/
def unitWeight : Int := 0x400000

/-- What whole weights add up to. -/
def totalWeight (weights : List Int) : Int := weights.foldr (· + ·) 0

structure Window (n : Nat) where
  start : Nat
  weights : List Int
  inside : start + weights.length ≤ n
  near_unit : (totalWeight weights - unitWeight).natAbs ≤ 8000

namespace Window

/-- A weight in whole units, a half away from zero. -/
def units (w : Float) : Int :=
  let scaled := w * 4194304
  if scaled < 0 then -(((0.5 - scaled).toUInt64.toNat : Nat) : Int)
  else ((scaled + 0.5).toUInt64.toNat : Nat)

/-- The window that reads one source pixel. -/
def single (n i : Nat) (h : i < n) : Window n where
  start := i
  weights := [unitWeight]
  inside := h
  near_unit := by decide

/-- The window with the whole weights of a float window.  Weights that do not
add up to one are replaced by the single pixel at `fallback`. -/
def ofFloat (n : Nat) (w : FloatWindow) (fallback : Nat) (h : fallback < n) : Window n :=
  let weights := w.weights.map units
  if ok : w.start + weights.length ≤ n ∧ (totalWeight weights - unitWeight).natAbs ≤ 8000 then
    ⟨w.start, weights, ok.1, ok.2⟩
  else single n fallback h

/-- The weighted sum of the samples from `i` on, added to `sum`. -/
def sumFrom (sample : Nat → Nat) : Nat → List Int → Int → Int
  | _, [], sum => sum
  | i, w :: ws, sum => sumFrom sample (i + 1) ws (sum + w * (sample i : Int))

/-- The weighted mean of a row of bytes, to the nearest byte. -/
def mean {n : Nat} (w : Window n) (sample : Nat → Nat) : UInt8 :=
  let total := sumFrom sample w.start w.weights 0
  UInt8.ofNat (min 255 ((total + 0x200000) / 0x400000).toNat)

end Window

end Darkroom
