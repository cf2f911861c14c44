/-
# Darkroom.Raster.Convert -- the colour of a pixel in every mode

`pixelAt` gives the colour and alpha that a pixel stands for, whatever the mode
of its raster; the conversions to RGB and RGBA write it out pixel by pixel.  A
mark of transparency beside the pixels turns into alpha and leaves the colour
as it is.  Gray multiplied by its alpha has no conversion.

Multiplying a channel by an alpha rounds to the nearest byte; dividing it again
rounds down and stops at 255, and leaves pixels of alpha 0 and 255 alone.
-/
import Darkroom.Raster.Basic
import Darkroom.Fault

namespace Darkroom

set_option autoImplicit false

structure Rgba where
  red : UInt8
  green : UInt8
  blue : UInt8
  alpha : UInt8
  deriving DecidableEq, Inhabited, Repr

namespace Rgba

/-- The channels in order, red first. -/
def channel (p : Rgba) : Nat → UInt8
  | 0 => p.red
  | 1 => p.green
  | 2 => p.blue
  | _ => p.alpha

def ofGray (v a : UInt8) : Rgba := ⟨v, v, v, a⟩

def ofColor (c : UInt8 × UInt8 × UInt8) (a : UInt8) : Rgba := ⟨c.1, c.2.1, c.2.2, a⟩

end Rgba

/-! ## Bytes as shares of 255 -/

namespace Channel

/-- The product of two bytes read as shares of 255, to the nearest byte. -/
def scale (c a : Nat) : Nat :=
  let t := c * a + 128
  (t / 256 + t) / 256

/-- A premultiplied channel divided by its alpha. -/
def unscale (c a : Nat) : Nat :=
  if a = 0 ∨ a = 255 then c else min 255 (255 * c / a)

def scaleByte (c a : UInt8) : UInt8 := UInt8.ofNat (scale c.toNat a.toNat)

def unscaleByte (c a : UInt8) : UInt8 := UInt8.ofNat (unscale c.toNat a.toNat)

/-- The byte nearest to an integer. -/
def clip (n : Int) : UInt8 := UInt8.ofNat (min 255 n.toNat)

end Channel

/-! ## Wide samples -/

/-- The signed number that 32 bits write. -/
def signed32 (n : Nat) : Int := if n < 0x80000000 then n else (n : Int) - 0x100000000

/-- The byte of a binary32 value: towards zero, within 0 and 255. -/
def byteOfFloat32 (bits : Nat) : UInt8 :=
  let v := Float32.ofBits (UInt32.ofNat bits)
  if v ≤ 0 then 0 else if v ≥ 255 then 255 else v.toUInt8

namespace Raster

/-- The gray byte of a pixel in one of the gray modes. -/
def grayAt (r : Raster) (x y : Nat) : UInt8 :=
  match r.mode with
  | .bilevel => if r.byteAt x y 0 = 0 then 0 else 255
  | .gray16 => Channel.clip (r.wordAt x y)
  | .int32 => Channel.clip (signed32 (r.wordAt x y))
  | .float32 => byteOfFloat32 (r.wordAt x y)
  | _ => r.byteAt x y 0

/-- The byte of an integer, as a mark of transparency is compared. -/
def keyByte (n : Int) : UInt8 := UInt8.ofNat (n % 256).toNat

/-- The alpha that a mark of transparency gives to a gray pixel. -/
def grayMask (t : Transparency) (v : UInt8) : UInt8 :=
  match t with
  | .key k => if v = keyByte k then 0 else 255
  | _ => 255

/-- The alpha that a mark of transparency gives to a coloured pixel. -/
def colorMask (t : Transparency) (r g b : UInt8) : UInt8 :=
  match t with
  | .color kr kg kb => if r = keyByte kr ∧ g = keyByte kg ∧ b = keyByte kb then 0 else 255
  | .key k => if r = keyByte k ∧ g = 0 ∧ b = 0 then 0 else 255
  | _ => 255

/-- The alpha that a mark of transparency gives to a palette index. -/
def indexMask (t : Transparency) (index : UInt8) : UInt8 :=
  match t with
  | .key k => if (index.toNat : Int) = k then 0 else 255
  | .alphas values => values.getD index.toNat 255
  | _ => 255

/-- The colour and alpha that a pixel stands for. -/
def pixelAt (r : Raster) (x y : Nat) : Rgba :=
  let b := r.byteAt x y
  match r.mode with
  | .bilevel | .gray | .gray16 | .int32 =>
      let v := r.grayAt x y
      .ofGray v (grayMask r.transparency v)
  | .float32 => .ofGray (r.grayAt x y) 255
  | .grayAlpha => .ofGray (b 0) (b 1)
  | .grayPremultiplied => .ofGray (Channel.unscaleByte (b 0) (b 1)) (b 1)
  | .indexed => .ofColor (r.palette.color (b 0)) (indexMask r.transparency (b 0))
  | .indexedAlpha => .ofColor (r.palette.color (b 0)) (b 1)
  | .rgb => ⟨b 0, b 1, b 2, colorMask r.transparency (b 0) (b 1) (b 2)⟩
  | .rgba => ⟨b 0, b 1, b 2, b 3⟩
  | .rgbPremultiplied =>
      let a := b 3
      ⟨Channel.unscaleByte (b 0) a, Channel.unscaleByte (b 1) a, Channel.unscaleByte (b 2) a, a⟩
  | .rgbx => ⟨b 0, b 1, b 2, 255⟩
  | .cmyk =>
      let k := 255 - (b 3).toNat
      let shade := fun c : UInt8 => Channel.clip ((k : Int) - Channel.scale c.toNat k)
      ⟨shade (b 0), shade (b 1), shade (b 2), 255⟩

/-- The raster of a colour and an alpha at every pixel. -/
def ofPixels (width height : Nat) (f : Nat → Nat → Rgba) : Raster :=
  tabulate .rgba width height fun x y c => (f x y).channel c

/-- The modes that carry alpha in their pixels. -/
def modeHasAlpha : Mode → Bool
  | .rgba | .grayAlpha | .indexedAlpha | .rgbPremultiplied | .grayPremultiplied => true
  | _ => false

/-- Alpha in the pixels, or a mark of transparency beside them. -/
def hasAlpha (r : Raster) : Bool :=
  modeHasAlpha r.mode || decide (r.transparency ≠ .none)

/-- The mode has colours to convert. -/
def isConvertible (r : Raster) : Bool := r.mode != .grayPremultiplied

/-- The picture in RGBA; one that is RGBA already stays as it is. -/
def toRgba (r : Raster) : Outcome Raster :=
  if r.mode = .rgba then .ok r
  else if r.isConvertible then .ok (ofPixels r.width r.height r.pixelAt)
  else .error .noConversion

/-- The picture in RGB, alpha dropped; one that is RGB already stays as it is. -/
def toRgb (r : Raster) : Outcome Raster :=
  if r.mode = .rgb then .ok r
  else if r.isConvertible then
    .ok (tabulate .rgb r.width r.height fun x y c => (r.pixelAt x y).channel c)
  else .error .noConversion

/-- The colours of an RGBA picture alone. -/
def withoutAlpha (r : Raster) : Raster :=
  tabulate .rgb r.width r.height fun x y c => r.byteAt x y c

/-- RGBA for a picture with alpha and RGB for any other. -/
def normalized (r : Raster) : Outcome Raster :=
  if r.hasAlpha then r.toRgba else r.toRgb

end Raster

end Darkroom
