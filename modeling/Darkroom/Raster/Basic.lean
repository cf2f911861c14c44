/-
# Darkroom.Raster.Basic -- pictures as rows of pixels

A `Raster` is a width, a height and the bytes of its pixels, rows from top to
bottom, pixels from left to right, the channels of a pixel side by side.  Its
mode says how many bytes a pixel has and what they mean.  Rasters are built
pixel by pixel with `tabulate`, and read with `byteAt`; `byteAt_tabulate` says
that the two fit together, so an operation that is written with `tabulate`
states its result at every pixel.
-/

namespace Darkroom

set_option autoImplicit false

/-- What the bytes of a pixel mean. -/
inductive Mode
  /-- Black is zero and white anything else. -/
  | bilevel
  | gray
  | grayAlpha
  /-- Gray multiplied by its alpha. -/
  | grayPremultiplied
  /-- An index into the palette. -/
  | indexed
  | indexedAlpha
  | rgb
  | rgba
  /-- Colour multiplied by its alpha. -/
  | rgbPremultiplied
  /-- Colour and one byte without meaning. -/
  | rgbx
  | cmyk
  /-- Sixteen bits, low byte first. -/
  | gray16
  /-- A signed number of 32 bits, low byte first. -/
  | int32
  /-- A binary32 value, low byte first. -/
  | float32
  deriving DecidableEq, Inhabited, Repr

namespace Mode

def name : Mode → String
  | .bilevel => "1"
  | .gray => "L"
  | .grayAlpha => "LA"
  | .grayPremultiplied => "La"
  | .indexed => "P"
  | .indexedAlpha => "PA"
  | .rgb => "RGB"
  | .rgba => "RGBA"
  | .rgbPremultiplied => "RGBa"
  | .rgbx => "RGBX"
  | .cmyk => "CMYK"
  | .gray16 => "I;16"
  | .int32 => "I"
  | .float32 => "F"

def all : List Mode :=
  [.bilevel, .gray, .grayAlpha, .grayPremultiplied, .indexed, .indexedAlpha, .rgb, .rgba,
    .rgbPremultiplied, .rgbx, .cmyk, .gray16, .int32, .float32]

def ofName? (name : String) : Option Mode :=
  all.find? fun m => m.name == name

/-- The bytes of one pixel. -/
def bytes : Mode → Nat
  | .bilevel | .gray | .indexed => 1
  | .grayAlpha | .grayPremultiplied | .indexedAlpha | .gray16 => 2
  | .rgb => 3
  | .rgba | .rgbPremultiplied | .rgbx | .cmyk | .int32 | .float32 => 4

theorem bytes_pos (m : Mode) : 0 < m.bytes := by cases m <;> decide

end Mode

/-- The colours of an indexed raster. -/
structure Palette where
  colors : Array (UInt8 × UInt8 × UInt8) := #[]
  deriving DecidableEq, Inhabited

/-- An index without a colour of its own is black. -/
def Palette.color (p : Palette) (index : UInt8) : UInt8 × UInt8 × UInt8 :=
  p.colors.getD index.toNat (0, 0, 0)

/-- A mark beside the pixels that says which of them are see-through. -/
inductive Transparency
  | none
  /-- One gray value or palette index. -/
  | key (value : Int)
  | color (red green blue : Int)
  /-- The alpha of each palette index; indices without one are opaque. -/
  | alphas (values : Array UInt8)
  deriving DecidableEq, Inhabited

structure Raster where
  mode : Mode
  width : Nat
  height : Nat
  data : Array UInt8
  palette : Palette := ⟨#[]⟩
  transparency : Transparency := .none
  size_data : data.size = width * height * mode.bytes

namespace Raster

/-- The raster whose pixel at `x`, `y` has the byte `f x y c` in channel `c`. -/
def tabulate (mode : Mode) (width height : Nat) (f : Nat → Nat → Nat → UInt8) : Raster where
  mode := mode
  width := width
  height := height
  data := Array.ofFn (n := width * height * mode.bytes) fun i =>
    let pixel := i.val / mode.bytes
    f (pixel % width) (pixel / width) (i.val % mode.bytes)
  size_data := Array.size_ofFn

/-- The byte in channel `c` of the pixel at `x`, `y`; zero outside the data. -/
def byteAt (r : Raster) (x y c : Nat) : UInt8 :=
  r.data.getD ((y * r.width + x) * r.mode.bytes + c) 0

theorem pixelIndex_lt {width height n x y c : Nat} (hx : x < width) (hy : y < height)
    (hc : c < n) : (y * width + x) * n + c < width * height * n := by
  have hrow : y * width + x + 1 ≤ width * height := by
    calc y * width + x + 1 ≤ y * width + width := by omega
      _ = (y + 1) * width := by rw [Nat.succ_mul]
      _ ≤ height * width := Nat.mul_le_mul_right _ hy
      _ = width * height := Nat.mul_comm _ _
  calc (y * width + x) * n + c < (y * width + x) * n + n := by omega
    _ = (y * width + x + 1) * n := by rw [Nat.succ_mul]
    _ ≤ width * height * n := Nat.mul_le_mul_right _ hrow

theorem byteAt_tabulate {mode : Mode} {width height : Nat} {f : Nat → Nat → Nat → UInt8}
    {x y c : Nat} (hx : x < width) (hy : y < height) (hc : c < mode.bytes) :
    (tabulate mode width height f).byteAt x y c = f x y c := by
  have hn := mode.bytes_pos
  have hi := pixelIndex_lt hx hy hc
  have hdiv : ((y * width + x) * mode.bytes + c) / mode.bytes = y * width + x := by
    rw [Nat.mul_comm, Nat.mul_add_div hn, Nat.div_eq_of_lt hc, Nat.add_zero]
  have hmod : ((y * width + x) * mode.bytes + c) % mode.bytes = c := by
    rw [Nat.mul_comm, Nat.mul_add_mod, Nat.mod_eq_of_lt hc]
  have hw : 0 < width := by omega
  have hx' : (y * width + x) % width = x := by
    rw [Nat.mul_comm, Nat.mul_add_mod, Nat.mod_eq_of_lt hx]
  have hy' : (y * width + x) / width = y := by
    rw [Nat.mul_comm, Nat.mul_add_div hw, Nat.div_eq_of_lt hx, Nat.add_zero]
  simp only [byteAt, tabulate, Array.getD_eq_getD_getElem?]
  rw [Array.getElem?_eq_getElem (by simpa using hi)]
  simp [hdiv, hmod, hx', hy']

/-- A raster of the same kind (mode, palette and transparency) with other pixels. -/
def remap (r : Raster) (width height : Nat) (f : Nat → Nat → Nat → UInt8) : Raster :=
  { tabulate r.mode width height f with palette := r.palette, transparency := r.transparency }

/-- All pixels alike. -/
def filled (mode : Mode) (width height : Nat) (pixel : Nat → UInt8) : Raster :=
  tabulate mode width height fun _ _ c => pixel c

/-- The raster of given data, when the data have the right length. -/
def ofData? (mode : Mode) (width height : Nat) (data : Array UInt8) : Option Raster :=
  if h : data.size = width * height * mode.bytes then some ⟨mode, width, height, data, ⟨#[]⟩, .none, h⟩
  else none

/-- Eight pixels of a row of black and white, a bit for each, the leftmost in the highest
bit.  There is no white beyond the row. -/
def bitsAt (r : Raster) (x y : Nat) : UInt8 :=
  (List.range 8).foldl (fun byte i =>
    2 * byte + if x + i < r.width ∧ r.byteAt (x + i) y 0 ≠ 0 then 1 else 0) 0

/-- The picture as a string of bytes.  Rows of black and white are packed, eight pixels to
a byte; any other mode has its bytes as they are. -/
def packed (r : Raster) : Array UInt8 :=
  if r.mode = .bilevel then
    let row := (r.width + 7) / 8
    Array.ofFn (n := row * r.height) fun i => r.bitsAt (i.val % row * 8) (i.val / row)
  else r.data

example : (filled .bilevel 9 1 fun _ => 255).packed = #[255, 128] := by decide

theorem packed_of_ne_bilevel {r : Raster} (h : r.mode ≠ .bilevel) : r.packed = r.data :=
  if_neg h

/-- The little-endian number of two or four bytes of a pixel. -/
def wordAt (r : Raster) (x y : Nat) : Nat :=
  (List.range r.mode.bytes).foldr (fun c n => (r.byteAt x y c).toNat + 256 * n) 0

end Raster

end Darkroom
