/-
# Darkroom.File.Tiff.Write -- writing TIFF files

A page is written as one deflated strip, with its directory behind it.
-/
import Darkroom.File.Deflate
import Darkroom.File.Png.Write
import Darkroom.File.Tiff

namespace Darkroom.Tiff

set_option autoImplicit false

/-- What the samples of a mode mean, the bits of each, and what those beyond the
colours mean. -/
def meaningOf : Mode → Nat × List Nat × List Nat
  | .bilevel => (1, [1], [])
  | .gray => (1, [8], [])
  | .gray16 => (1, [16], [])
  | .int32 | .float32 => (1, [32], [])
  | .grayAlpha => (1, [8, 8], [2])
  | .indexed => (3, [8], [])
  | .indexedAlpha => (3, [8, 8], [2])
  | .rgba => (2, [8, 8, 8, 8], [2])
  | .rgbx => (2, [8, 8, 8, 8], [0])
  | .cmyk => (5, [8, 8, 8, 8], [])
  | _ => (2, [8, 8, 8], [])

/-- A field that is written: its tag, the bytes of a value, and the values. -/
structure WrittenField where
  tag : Nat
  size : Nat
  values : List Nat

/-- The fields of a page whose strip stands at `start` and takes `length` bytes. -/
def writtenFields (r : Raster) (start length : Nat) : List WrittenField :=
  let (meaning, bits, extra) := meaningOf r.mode
  let colors := (List.range 256).map fun i => r.palette.color (UInt8.ofNat i)
  let wide := fun (b : UInt8) => 256 * b.toNat
  let format := if r.mode = .float32 then 3 else if r.mode = .int32 then 2 else 1
  [⟨256, 4, [r.width]⟩, ⟨257, 4, [r.height]⟩, ⟨258, 2, bits⟩, ⟨259, 2, [8]⟩, ⟨262, 2, [meaning]⟩,
    ⟨273, 4, [start]⟩, ⟨277, 2, [bits.length]⟩, ⟨278, 4, [r.height]⟩, ⟨279, 4, [length]⟩,
    ⟨284, 2, [1]⟩] ++
  (if meaning = 3 then
    [⟨320, 2, colors.map (fun c => wide c.1) ++ colors.map (fun c => wide c.2.1) ++
      colors.map fun c => wide c.2.2⟩] else []) ++
  (if extra = [] then [] else [⟨338, 2, extra⟩]) ++ [⟨339, 2, bits.map fun _ => format⟩]

/-- A directory of fields that stands at `position`: the fields with their values,
and behind them the values that take more than four bytes. -/
def directoryBytes (position : Nat) (fields : List WrittenField) : Bytes :=
  let size := 6 + 12 * fields.length
  let (written, more) := fields.foldl (fun (state : Bytes × Bytes) f =>
    let values := (f.values.flatMap (Bytes.ofLow f.size)).toArray
    let kind := if f.size = 2 then 3 else 4
    let head := Bytes.ofLow 2 f.tag ++ Bytes.ofLow 2 kind ++ Bytes.ofLow 4 f.values.length
    if values.size ≤ 4 then
      (state.1 ++ head ++ values ++ Array.replicate (4 - values.size) 0, state.2)
    else
      (state.1 ++ head ++ Bytes.ofLow 4 (position + size + state.2.size), state.2 ++ values))
    (#[], #[])
  (Bytes.ofLow 2 fields.length).toArray ++ written ++ Bytes.ofLow 4 0 ++ more

/-- The rows of a page, in the order of bytes of the file. -/
def writtenRow (r : Raster) (y : Nat) : Bytes :=
  match r.mode with
  | .bilevel => Png.writtenRow r y
  | mode => r.data.extract (y * r.width * mode.bytes) ((y + 1) * r.width * mode.bytes)

/-- The bytes of a TIFF file. -/
def bytes (r : Raster) : Bytes :=
  let rows := (List.range r.height).foldl (fun (done : Bytes) y => done ++ writtenRow r y) #[]
  let strip := Deflate.wrapped rows
  let padding := strip.size % 2
  let position := 8 + strip.size + padding
  let head : Bytes := #[0x49, 0x49, 0x2A, 0]
  head ++ Bytes.ofLow 4 position ++ strip ++ Array.replicate padding 0 ++
    directoryBytes position (writtenFields r 8 strip.size)

end Darkroom.Tiff
