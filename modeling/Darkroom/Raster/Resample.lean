/-
# Darkroom.Raster.Resample -- pictures of another size

A resample runs along the rows first and then along the columns, rounding to
bytes in between; an axis whose size and span stay the same is left out.
Pictures with alpha are premultiplied for the time of the resample, so a
see-through pixel lends no colour to its neighbours.  Palette indices and black
and white take the nearest source pixel.  Wide samples are resampled in
floating point.

A resample needs room for the weights of both axes, even of one that is left out.
-/
import Darkroom.Raster.Convert
import Darkroom.Raster.Window

namespace Darkroom

set_option autoImplicit false

/-- The part of the source that a resample reads. -/
structure Region where
  across : Span
  down : Span

def Region.whole (r : Raster) : Region := ⟨.whole r.width, .whole r.height⟩

namespace Raster

/-! ## Bytes -/

/-- Resample the rows of a byte picture. -/
def resampleRows (r : Raster) (f : Filter) (s : Span) (count : Nat) : Raster :=
  if h : 0 < r.width then
    let windows : Array (Window r.width) := Array.ofFn (n := count) fun i =>
      .ofFloat r.width (.of f s r.width count i.val) (min (i.val * r.width / count) (r.width - 1))
        (by omega)
    r.remap count r.height fun x y c =>
      match windows[x]? with
      | some w => w.mean fun k => (r.byteAt k y c).toNat
      | none => 0
  else r.remap count r.height fun _ _ _ => 0

/-- Resample the columns of a byte picture. -/
def resampleColumns (r : Raster) (f : Filter) (s : Span) (count : Nat) : Raster :=
  if h : 0 < r.height then
    let windows : Array (Window r.height) := Array.ofFn (n := count) fun i =>
      .ofFloat r.height (.of f s r.height count i.val) (min (i.val * r.height / count) (r.height - 1))
        (by omega)
    r.remap r.width count fun x y c =>
      match windows[y]? with
      | some w => w.mean fun k => (r.byteAt x k c).toNat
      | none => 0
  else r.remap r.width count fun _ _ _ => 0

def resampleBytes (r : Raster) (f : Filter) (region : Region) (width height : Nat) : Raster :=
  let rows :=
    if region.across.isIdentity r.width width then r else r.resampleRows f region.across width
  if region.down.isIdentity r.height height then rows else rows.resampleColumns f region.down height

/-! ## Alpha -/

/-- The number of the alpha channel, in the modes that are premultiplied. -/
def alphaChannel? : Mode → Option Nat
  | .rgba => some 3
  | .grayAlpha => some 1
  | _ => none

/-- Multiply the channels below `alpha` by it. -/
def premultiplied (r : Raster) (alpha : Nat) : Raster :=
  r.remap r.width r.height fun x y c =>
    if c = alpha then r.byteAt x y c
    else Channel.scaleByte (r.byteAt x y c) (r.byteAt x y alpha)

/-- Divide the channels below `alpha` by it. -/
def unpremultiplied (r : Raster) (alpha : Nat) : Raster :=
  r.remap r.width r.height fun x y c =>
    if c = alpha then r.byteAt x y c
    else Channel.unscaleByte (r.byteAt x y c) (r.byteAt x y alpha)

/-! ## Nearest source pixel -/

/-- The source position of each pixel of one axis, if it lies in the source. -/
def nearestPositions (s : Span) (n count : Nat) : Array (Option Nat) :=
  let scale := s.scale count
  let start := s.low32.toFloat + scale * 0.5
  (List.range count).foldl (fun (acc : Array (Option Nat) × Float) _ =>
    let place := acc.2
    let position := if place < 0 then none else
      let p := place.toUInt64.toNat
      if p < n then some p else none
    (acc.1.push position, place + scale)) (#[], start) |>.1

def nearestPixels (r : Raster) (region : Region) (width height : Nat) : Raster :=
  let xs := nearestPositions region.across r.width width
  let ys := nearestPositions region.down r.height height
  r.remap width height fun x y c =>
    match xs.getD x none, ys.getD y none with
    | some sx, some sy => r.byteAt sx sy c
    | _, _ => 0

/-! ## Wide samples -/

/-- A picture of one wide sample per pixel. -/
structure Samples where
  width : Nat
  height : Nat
  values : Array Float

/-- The nearest whole number, a half away from zero. -/
def roundAway (v : Float) : Int :=
  if v < 0 then -(((0.5 - v).floor.toUInt64.toNat : Nat) : Int)
  else ((v + 0.5).floor.toUInt64.toNat : Nat)

/-- The bytes of a number, low byte first. -/
def lowBytes (n : Nat) (c : Nat) : UInt8 := UInt8.ofNat (n >>> (8 * c))

/-- The value of a wide sample. -/
def sampleAt (r : Raster) (x y : Nat) : Float :=
  match r.mode with
  | .float32 => (Float32.ofBits (UInt32.ofNat (r.wordAt x y))).toFloat
  | .int32 => Float.ofInt (signed32 (r.wordAt x y))
  | _ => (r.wordAt x y).toFloat

/-- The byte of a wide sample after a resample. -/
def sampleByte (mode : Mode) (v : Float) (c : Nat) : UInt8 :=
  match mode with
  | .float32 => lowBytes v.toFloat32.toBits.toNat c
  | .int32 => lowBytes ((roundAway v) % 0x100000000).toNat c
  | _ =>
      let n := roundAway v
      if c = 0 then Channel.clip (n.tmod 256) else Channel.clip (n / 256)

/-- The weighted sum of the samples from `i` on. -/
def weightedSum (sample : Nat → Float) : Nat → List Float → Float → Float
  | _, [], sum => sum
  | i, w :: ws, sum => weightedSum sample (i + 1) ws (sum + sample i * w)

def resampleSampleRows (r : Raster) (f : Filter) (s : Span) (count : Nat) : Raster :=
  let windows := (List.range count).toArray.map (FloatWindow.of f s r.width count)
  r.remap count r.height fun x y c =>
    let w := windows.getD x default
    sampleByte r.mode (weightedSum (fun k => r.sampleAt k y) w.start w.weights 0) c

def resampleSampleColumns (r : Raster) (f : Filter) (s : Span) (count : Nat) : Raster :=
  let windows := (List.range count).toArray.map (FloatWindow.of f s r.height count)
  r.remap r.width count fun x y c =>
    let w := windows.getD y default
    sampleByte r.mode (weightedSum (fun k => r.sampleAt x k) w.start w.weights 0) c

def resampleSamples (r : Raster) (f : Filter) (region : Region) (width height : Nat) : Raster :=
  let rows :=
    if region.across.isIdentity r.width width then r
    else r.resampleSampleRows f region.across width
  if region.down.isIdentity r.height height then rows
  else rows.resampleSampleColumns f region.down height

/-! ## Any mode -/

/-- The region is the picture at its own size. -/
def isWhole (r : Raster) (region : Region) (width height : Nat) : Bool :=
  width == r.width && height == r.height && region.across.low == 0 && region.down.low == 0 &&
    region.across.high == r.width.toFloat && region.down.high == r.height.toFloat

/-- The region of the picture at another size. -/
def resampled (r : Raster) (f : Filter) (region : Region) (width height : Nat) : Raster :=
  if r.isWhole region width height then r
  else match r.mode with
    | .bilevel | .indexed => r.nearestPixels region width height
    | .gray16 | .int32 | .float32 => r.resampleSamples f region width height
    | mode => match alphaChannel? mode with
      | some alpha =>
          ((r.premultiplied alpha).resampleBytes f region width height).unpremultiplied alpha
      | none => r.resampleBytes f region width height

/-- The largest side that a picture may be asked to have. -/
def largestSide : Int := 0x7FFFFFFF

/-- The most pixels that a row has room for. -/
def longestRow : Nat := 0x1FFFFFFE

/-- There is room for a resample: for a row of the result and, unless pixels are
picked or cut out, for the weights of both axes. -/
def hasRoom (r : Raster) (f : Filter) (region : Region) (width height : Nat) : Bool :=
  width ≤ longestRow && match r.mode with
    | .bilevel | .indexed => true
    | _ =>
        region.across.isCut width && region.down.isCut height ||
          region.across.hasRoom f r.width width && region.down.hasRoom f r.height height

/-- The picture at a size that has yet to be checked. -/
def resized (r : Raster) (f : Filter) (region : Region) (width height : Number) : Outcome Raster :=
  match width, height with
  | .int w, .int h =>
      if w = r.width ∧ h = r.height ∧ r.isWhole region r.width r.height then .ok r
      else if w.natAbs > largestSide ∨ h.natAbs > largestSide then .error (.arithmetic .overflow)
      else if w < 1 ∨ h < 1 then .error .emptySize
      else if r.hasRoom f region w.toNat h.toNat then .ok (r.resampled f region w.toNat h.toNat)
      else .error .outOfRoom
  | w, h =>
      if w.same (.int r.width) && h.same (.int r.height) && r.isWhole region r.width r.height
      then .ok r
      else .error .wrongType

end Raster

end Darkroom
