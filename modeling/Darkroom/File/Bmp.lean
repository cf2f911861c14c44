/-
# Darkroom.File.Bmp -- reading BMP files

A BMP file has a head of fourteen bytes, a second head of one of seven sizes, a
palette for pixels of up to eight bits, and rows of pixels, each filled up to
four bytes.  The rows go upwards unless the height is written as a small
negative number.  Colours come blue first; masks may say otherwise.

A palette that holds nothing but grays in order, or black and white, is no
palette: the pixels are gray, or black and white, then.
-/
import Darkroom.File.Bmp.Runs
import Darkroom.File.Samples

namespace Darkroom

set_option autoImplicit false

namespace Bmp

/-- How the pixels of a row are stored. -/
inductive Layout
  | bilevel
  | gray
  | indexed (bits : Nat)
  /-- Bytes, with the places of the colours among them. -/
  | bytes (count red green blue : Nat) (alpha : Option Nat)
  /-- Sixteen bits: five of blue, so many of green, and five of red. -/
  | word (greenBits : Nat)
  deriving DecidableEq, Inhabited

namespace Layout

def bits : Layout → Nat
  | .bilevel => 1
  | .gray => 8
  | .indexed bits => bits
  | .bytes count .. => 8 * count
  | .word _ => 16

def mode : Layout → Mode
  | .bilevel => .bilevel
  | .gray => .gray
  | .indexed _ => .indexed
  | .bytes _ _ _ _ alpha => if alpha.isSome then .rgba else .rgb
  | .word _ => .rgb

/-- Some bits of a number, spread over the range of a byte. -/
def field (number shift bits : Nat) : UInt8 :=
  UInt8.ofNat (number / Nat.pow 2 shift % Nat.pow 2 bits * 255 / (Nat.pow 2 bits - 1))

/-- The byte in channel `c` of pixel `x` of a row. -/
def byte (l : Layout) (row : Bytes) (x c : Nat) : UInt8 :=
  match l with
  | .bilevel => if Samples.small row 1 x = 0 then 0 else 255
  | .gray => row.getD x 0
  | .indexed bits => UInt8.ofNat (Samples.small row bits x)
  | .bytes count red green blue alpha =>
      row.getD (x * count + [red, green, blue, alpha.getD 0].getD c 0) 0
  | .word greenBits =>
      let number := row.at0 (2 * x) + 256 * row.at0 (2 * x + 1)
      match c with
      | 0 => field number (5 + greenBits) 5
      | 1 => field number 5 greenBits
      | _ => field number 0 5

end Layout

/-- How the rows are packed. -/
inductive Packing
  | plain
  /-- Runs of indices, of four bits or of eight. -/
  | runs (four : Bool)
  deriving DecidableEq, Inhabited

structure Head where
  /-- The size of the second head. -/
  size : Nat
  width : Nat
  height : Nat
  topDown : Bool
  bits : Nat
  compression : Nat
  /-- The number of colours of the palette. -/
  colors : Nat
  /-- The bytes that a colour of the palette takes. -/
  colorBytes : Nat
  /-- Where the second head and its masks end. -/
  stop : Nat
  /-- The masks of red, green, blue and alpha. -/
  masks : List Nat

namespace Head

/-- The colours that indices of so many bits can stand for; more bits are no index. -/
def allColors (bits : Nat) : Nat := if bits ≤ 8 then Nat.pow 2 bits else 0

/-- The sizes of a second head that says more than width, height and depth. -/
def longSizes : List Nat := [40, 52, 56, 64, 108, 124]

/-- A second head of twelve bytes. -/
def short (data : Bytes) : Option Head := do
  let bits ← data.low16? 24
  return {
    size := 12, width := ← data.low16? 18, height := ← data.low16? 20, topDown := false
    bits := bits, compression := 0, colors := allColors bits, colorBytes := 3, stop := 26
    masks := [] }

/-- The masks; a head that has no room for them is followed by three. -/
def readMasks (data : Bytes) (size : Nat) : Option (List Nat) := do
  let alpha ← if size < 56 then some 0 else data.low32? 66
  return [← data.low32? 54, ← data.low32? 58, ← data.low32? 62, alpha]

/-- A longer second head. -/
def long (data : Bytes) (size : Nat) : Option Head := do
  let topDown := data.at0 25 = 255
  let height ← data.low32? 22
  let bits ← data.low16? 28
  let compression ← data.low32? 30
  let colors ← data.low32? 46
  let masked : Bool := compression = 3
  return {
    size, width := ← data.low32? 18
    height := if topDown then 0x100000000 - height else height
    topDown, bits, compression
    colors := if colors = 0 then allColors bits else colors
    colorBytes := 4
    stop := 14 + size + if masked && size = 40 then 12 else 0
    masks := ← if masked then readMasks data size else some [] }

/-- The head of a file. -/
def read (data : Bytes) : Option Head := do
  if !data.startsWith [0x42, 0x4D] then none
  let size ← data.low32? 14
  if data.size < 14 + size then none
  if size = 12 then short data
  else if longSizes.contains size then long data size
  else none

/-- The masks of four bytes that are understood. -/
def byteMasks : List (List Nat) := [
  [0xFF0000, 0xFF00, 0xFF, 0], [0xFF000000, 0xFF0000, 0xFF00, 0], [0xFF000000, 0xFF00, 0xFF, 0],
  [0xFF000000, 0xFF0000, 0xFF00, 0xFF], [0xFF, 0xFF00, 0xFF0000, 0xFF000000],
  [0xFF0000, 0xFF00, 0xFF, 0xFF000000], [0xFF000000, 0xFF00, 0xFF, 0xFF0000]]

/-- The byte that a mask selects. -/
def maskedByte (mask : Nat) : Nat := Nat.log2 mask / 8

/-- The layout that masks describe. -/
def maskedLayout (h : Head) : Option Layout :=
  match h.bits, h.masks with
  | 32, [0, 0, 0, 0] => some (.bytes 4 2 1 0 (some 3))
  | 32, [r, g, b, a] =>
      if byteMasks.contains [r, g, b, a] then
        some (.bytes 4 (maskedByte r) (maskedByte g) (maskedByte b)
          (if a = 0 then none else some (maskedByte a)))
      else none
  | 24, [0xFF0000, 0xFF00, 0xFF, _] => some (.bytes 3 2 1 0 none)
  | 16, [0xF800, 0x7E0, 0x1F, _] => some (.word 6)
  | 16, [0x7C00, 0x3E0, 0x1F, _] => some (.word 5)
  | _, _ => none

/-- The bytes of the palette, as many as are there. -/
def paletteBytes (data : Bytes) (h : Head) : Bytes := data.slice h.stop (h.colorBytes * h.colors)

/-- The palette says nothing but which gray or which of black and white an index is. -/
def hasGrays (data : Bytes) (h : Head) : Bool :=
  let bytes := h.paletteBytes data
  let expected := fun i => if h.colors = 2 then UInt8.ofNat (255 * i) else UInt8.ofNat i
  (List.range h.colors).all fun i =>
    (bytes.slice (i * h.colorBytes) 3).toList = List.replicate 3 (expected i)

def palette (data : Bytes) (h : Head) : Palette :=
  let bytes := h.paletteBytes data
  ⟨Array.ofFn (n := bytes.size / h.colorBytes) fun i =>
    let start := i * h.colorBytes
    (bytes.getD (start + 2) 0, bytes.getD (start + 1) 0, bytes.getD start 0)⟩

/-- How the pixels are stored, as far as that makes sense. -/
def layout (data : Bytes) (h : Head) : Option Layout := do
  let plain ← match h.bits with
    | 1 => some (Layout.indexed 1)
    | 4 => some (.indexed 4)
    | 8 => some (.indexed 8)
    | 16 => some (.word 5)
    | 24 => some (.bytes 3 2 1 0 none)
    | 32 => some (.bytes 4 2 1 0 none)
    | _ => none
  let found ← if h.compression = 3 then h.maskedLayout else some plain
  if 3 < h.compression then none
  if h.bits ≤ 8 then
    if 65536 < h.colors then none
    if h.hasGrays data then some (if h.colors = 2 then .bilevel else .gray) else some found
  else some found

def packing (h : Head) : Packing :=
  if h.compression = 1 || h.compression = 2 then .runs (h.compression = 2) else .plain

/-- Where the rows start. -/
def start (data : Bytes) (h : Head) : Nat :=
  let written := data.low32? 10 |>.getD 0
  let behind := min data.size (h.stop + if h.bits ≤ 8 then h.colorBytes * h.colors else 0)
  let start := if written = 14 + h.size && h.bits ≤ 8 then written + 4 * h.colors else written
  if start = 0 then behind else start

/-- The place of a row among the stored rows. -/
def rowPlace (h : Head) (y : Nat) : Nat := if h.topDown then y else h.height - 1 - y

/-- The raster whose stored row number `i` is `row i`. -/
def raster (data : Bytes) (h : Head) (l : Layout) (row : Nat → Bytes) : Raster :=
  let rows := Array.ofFn (n := h.height) fun i => row i
  { Raster.tabulate l.mode h.width h.height fun x y c =>
      l.byte (rows.getD (h.rowPlace y) #[]) x c with
    palette := if l.mode = .indexed then h.palette data else ⟨#[]⟩ }

/-- The picture, stored as it is. -/
def plainPicture (data : Bytes) (h : Head) (l : Layout) : Except Damage Raster :=
  let stride := (h.width * h.bits + 31) / 32 * 4
  let length := Samples.bytesFor h.width l.bits
  let start := h.start data
  if stride < length || data.size < start + (h.height - 1) * stride + length then .error .pixels
  else .ok (h.raster data l fun i => data.slice (start + i * stride) length)

/-- The picture, stored as runs. -/
def packedPicture (data : Bytes) (h : Head) (l : Layout) (four : Bool) : Except Damage Raster :=
  let need := h.width * h.height
  let stored : Option Layout := match l with
    | .indexed _ => some (.indexed 8)
    | .gray => some .gray
    | _ => none
  match stored, unpackRuns data h.width need four data.size ⟨#[], h.start data, 0⟩ with
  | some l, some out =>
      if out.size < need then .error .misfit
      else .ok (h.raster data l fun i => out.slice (i * h.width) h.width)
  | _, _ => .error .misfit

end Head

/-- The picture behind the head. -/
def Head.picture (data : Bytes) (h : Head) (l : Layout) : Except Damage Raster :=
  if l.mode = .indexed && 256 < (h.palette data).colors.size then .error .misfit
  else match h.packing with
    | .plain => h.plainPicture data l
    | .runs four => h.packedPicture data l four

/-- What is found in a file; nothing when it is no BMP file. -/
def recognised (data : Bytes) : Recognised := do
  let head ← Head.read data
  let layout ← head.layout data
  Recognised.sized head.width head.height (.ofPicture Format.bmp.tag (head.picture data layout))

end Bmp

end Darkroom
