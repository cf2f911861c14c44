/-
# Darkroom.File.Tiff -- reading TIFF files

A TIFF file is a row of pages, each with a directory of its own.  The file is
recognised when the first page says how large it is and what its samples are.
Pages after it, and the pixels of every page, may be broken.

A page may be stored turned or mirrored; it is shown upright.
-/
import Darkroom.File.Samples
import Darkroom.File.Tiff.Directory
import Darkroom.File.Tiff.Strip
import Darkroom.Raster.Symmetry

namespace Darkroom

set_option autoImplicit false

namespace Tiff

/-- What the samples of a pixel stand for. -/
inductive Kind
  /-- Gray; zero is white where `inverted`. -/
  | gray (inverted : Bool)
  | grayAlpha
  | color
  /-- Colour with alpha, which the colours may be multiplied by. -/
  | colorAlpha (multiplied : Bool)
  | indexed
  | inks
  deriving DecidableEq, Inhabited

/-- How pixels are stored. -/
structure Layout where
  kind : Kind
  /-- The bits of a sample. -/
  depth : Nat
  /-- The number of samples, those without meaning among them. -/
  samples : Nat
  deriving DecidableEq, Inhabited

namespace Layout

/-- What the numbers of a directory stand for: how colours are written, the bits
of each sample, and what samples beyond the colours mean. -/
def of? (meaning : Nat) (bits extra : List Nat) : Option Layout := do
  let depth ← bits.head?
  if bits.any (· ≠ depth) then none
  let of := fun (kind : Kind) (samples : Nat) (depths : List Nat) (extras : List Nat) =>
    if depths.contains depth && bits.length = samples + extras.length then
      some (Layout.mk kind depth bits.length) else none
  match meaning, extra with
  | 0, [] => of (.gray true) 1 [1, 2, 4, 8, 16] []
  | 1, [] => of (.gray false) 1 [1, 2, 4, 8, 16] []
  | 1, [2] => of .grayAlpha 2 [8] []
  | 2, [] => (of .color 3 [8, 16] []).or (of (.colorAlpha false) 4 [8, 16] [])
  | 2, e :: rest =>
      if rest.any (· ≠ 0) then none
      else match e with
        | 0 => of .color 3 [8, 16] (e :: rest)
        | 1 => of (.colorAlpha true) 4 [8, 16] rest
        | 2 | 999 => of (.colorAlpha false) 4 [8, 16] rest
        | _ => none
  | 3, [] => of .indexed 1 [1, 2, 4, 8] []
  | 3, [0] => of .indexed 1 [8] [0]
  | 5, [] => of .inks 4 [8] []
  | 5, e :: rest => if (e :: rest).any (· ≠ 0) then none else of .inks 4 [8] (e :: rest)
  | _, _ => none

def mode (l : Layout) : Mode :=
  match l.kind with
  | .gray _ => if l.depth = 1 then .bilevel else if l.depth = 16 then .gray16 else .gray
  | .grayAlpha => .grayAlpha
  | .color => .rgb
  | .colorAlpha _ => .rgba
  | .indexed => .indexed
  | .inks => .cmyk

/-- The byte in channel `c` of a pixel with the samples given. -/
def byte (l : Layout) (sample : Nat → Nat) (c : Nat) : UInt8 :=
  let high := fun k => if l.depth = 16 then sample k / 256 else sample k
  match l.kind with
  | .gray inverted =>
      if l.depth = 16 then UInt8.ofNat (if c = 0 then sample 0 % 256 else sample 0 / 256)
      else
        let gray := Samples.spread l.depth (sample 0)
        if inverted then 255 - gray else gray
  | .colorAlpha true =>
      let alpha := high 3
      if c = 3 then UInt8.ofNat alpha
      else if alpha = 0 then 0
      else UInt8.ofNat (min 255 (high c * 255 / alpha))
  | _ => UInt8.ofNat (high c)

end Layout

structure Page where
  width : Nat
  height : Nat
  layout : Layout
  packing : Packing
  /-- Each sample of the pixels is stored for itself. -/
  apart : Bool
  /-- The rows of a strip. -/
  stripRows : Nat
  /-- Where the strips stand. -/
  starts : List Nat
  /-- The bytes that the strips take. -/
  lengths : List Nat
  /-- Packed rows hold differences. -/
  differences : Bool
  palette : Palette
  /-- How the page is laid down; one is upright. -/
  orientation : Nat

namespace Page

/-- The palette of a directory: all reds, all greens, all blues. -/
def paletteOf (numbers : List Nat) : Palette :=
  let bytes := (numbers.map fun n => UInt8.ofNat (n / 256)).toArray
  let count := bytes.size / 3
  ⟨Array.ofFn (n := count) fun i =>
    (bytes.getD i 0, bytes.getD (count + i) 0, bytes.getD (2 * count + i) 0)⟩

/-- The number of bits of each of `count` samples; a single number holds for all. -/
def bitsOf (numbers : List Nat) (count : Nat) : Option (List Nat) :=
  match numbers with
  | [bits] => some (List.replicate count bits)
  | bits => if count ≤ bits.length then some (bits.take count) else none

/-- The layout that a directory describes. -/
def layoutOf (d : Directory) : Option Layout := do
  let samples ← d.number 277 1
  let formats ← d.numbers 339 [1]
  if samples = 0 || 8 < samples || formats.any (· ≠ 1) || (d.number 266 1) ≠ some 1 then none
  Layout.of? (← d.number 262 0) (← bitsOf (← d.numbers 258 [1]) samples) (← d.numbers 338 [])

/-- The width and height of a directory. -/
def sizeOf (d : Directory) : Except Damage (Nat × Nat) :=
  match d.values? 256, d.values? 257 with
  | some (some (width :: _)), some (some (height :: _)) => .ok (width, height)
  | none, _ | _, none => .error .sizeless
  | _, _ => .error .misfit

/-- The page of a directory.  Packings and palettes are looked up by number. -/
def ofDirectory (d : Directory) : Except Damage Page := do
  let packing ← unlisted ((d.number 259 1).bind Packing.ofNumber?)
  let (width, height) ← sizeOf d
  let layout ← unreadable (layoutOf d)
  let starts ← unreadable (if packing = .plain then (d.values? 273).join else d.numbers 273 [])
  let palette ← if layout.kind = .indexed then unlisted ((d.values? 320).join.map paletteOf)
    else .ok ⟨#[]⟩
  let page ← unreadable do
    if width = 0 || height = 0 then none
    return {
      width, height, layout, packing
      apart := (d.number 284 1) = some 2
      stripRows := ← d.number 278 height
      starts
      lengths := ← d.numbers 279 []
      differences := packing ≠ .plain && (d.number 317 1) = some 2
      palette
      orientation := ← d.number 274 1 }
  if mostPixels < width * height then .error .oversized else .ok page
where
  unlisted {α : Type} (found : Option α) : Except Damage α := found.elim (.error .unlisted) .ok
  unreadable {α : Type} (found : Option α) : Except Damage α := found.elim (.error .pixels) .ok

/-- The samples of a pixel that a strip holds. -/
def stripSamples (p : Page) : Nat := if p.apart then 1 else p.layout.samples

def rowBytes (p : Page) : Nat := Samples.bytesFor (p.width * p.stripSamples) p.layout.depth

/-- The number of strips that hold all rows once. -/
def stripCount (p : Page) : Nat := (p.height + p.stripRows - 1) / p.stripRows

/-- The places of the strips.  A single strip that stands there several times is
the last of them. -/
def usedStarts (p : Page) : List Nat :=
  if p.stripCount = 1 && p.stripRows = p.height && !p.apart then
    p.starts.drop (p.starts.length - 1)
  else p.starts

/-- Strip number `i`, when it can be read.  Plain strips may be missing; they are
zero then. -/
def strip (data : Bytes) (p : Page) (i : Nat) : Option Bytes :=
  let top := i % p.stripCount * p.stripRows
  let need := min p.stripRows (p.height - top) * p.rowBytes
  match p.packing, p.usedStarts[i]? with
  | .plain, none => some #[]
  | _, none => none
  | .plain, some start =>
      if start + need ≤ data.size then some (data.slice start need) else none
  | packing, some start => do
      let length ← p.lengths[i]?
      if data.size < start + length then none
      let bytes ← packing.unpack (data.slice start length) need
      return if p.differences && p.layout.depth = 8 then summed bytes p.rowBytes p.stripSamples
        else bytes

/-- The strips in order. -/
def strips (data : Bytes) (p : Page) : Option (Array Bytes) := do
  let planes := if p.apart then p.layout.samples else 1
  return (← (List.range (planes * p.stripCount)).mapM (p.strip data)).toArray

/-- Sample `k` of the pixel at `x`, `y`. -/
def sample (order : Bytes.Order) (p : Page) (strips : Array Bytes) (x y k : Nat) : Nat :=
  let number := y / p.stripRows + if p.apart then k * p.stripCount else 0
  let start := y % p.stripRows * p.rowBytes
  let i := if p.apart then x else x * p.layout.samples + k
  let strip := strips.getD number #[]
  if p.layout.depth = 16 then (strip.number? order (start + 2 * i) 2).getD 0
  else Samples.smallFrom strip start p.layout.depth i

/-- The symmetries that lay a page upright. -/
def upright : Nat → List Symmetry
  | 2 => [.mirror]
  | 3 => [.halfTurn]
  | 4 => [.upsideDown]
  | 5 => [.quarterTurn, .upsideDown]
  | 6 => [.threeQuarterTurn]
  | 7 => [.quarterTurn, .mirror]
  | 8 => [.quarterTurn]
  | _ => []

/-- The picture of a page. -/
def picture (data : Bytes) (order : Bytes.Order) (p : Page) : Except Damage Raster :=
  if p.stripRows = 0 || (p.apart && p.layout.depth ≠ 8) then .error .misfit
  else match p.strips data with
    | none => .error .pixels
    | some strips =>
        let stored := { Raster.tabulate p.layout.mode p.width p.height fun x y c =>
            p.layout.byte (p.sample order strips x y) c with
          palette := p.palette }
        .ok ((upright p.orientation).foldl Raster.transformed stored)

end Page

/-- The frames of directories, up to the first that cannot be shown. -/
def frames (data : Bytes) (order : Bytes.Order) : List Directory → List Frame × Option Damage
  | [] => ([], none)
  | d :: rest => match Page.ofDirectory d >>= Page.picture data order with
    | .error damage => ([], some damage)
    | .ok picture =>
        let (others, damage) := frames data order rest
        (⟨picture, {}⟩ :: others, damage)

/-- What is found in a file; nothing when it is no TIFF file. -/
def recognised (data : Bytes) : Recognised := do
  let order ← order? data
  let start ← data.number? order 4 4
  match directoriesFrom data order data.size start [] with
  | [] => none
  | first :: rest => match Page.ofDirectory first with
    | .error .misfit => some (.error .misfit)
    | .error .oversized => some (.error .oversized)
    | .error _ => none
    | .ok _ =>
        let (frames, damage) := frames data order (first :: rest)
        some (.ok ⟨Format.tiff.tag, frames, damage, none⟩)

end Tiff

end Darkroom
