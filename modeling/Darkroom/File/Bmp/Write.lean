/-
# Darkroom.File.Bmp.Write -- writing BMP files

Black and white takes a bit for a pixel, gray and indices a byte, and colours
three bytes or, with alpha, four.
-/
import Darkroom.File.Bmp
import Darkroom.File.Png.Write

namespace Darkroom.Bmp

set_option autoImplicit false

/-- The bits of a pixel of a mode. -/
def bitsOf : Mode → Nat
  | .bilevel => 1
  | .gray | .indexed => 8
  | .rgba => 32
  | _ => 24

/-- The palette that is written with a picture. -/
def writtenPalette (r : Raster) : List (UInt8 × UInt8 × UInt8) :=
  match r.mode with
  | .bilevel => [(0, 0, 0), (255, 255, 255)]
  | .gray => (List.range 256).map fun i => (UInt8.ofNat i, UInt8.ofNat i, UInt8.ofNat i)
  | .indexed => r.palette.colors.toList
  | _ => []

/-- A row as it is written, filled up to four bytes. -/
def writtenRow (r : Raster) (y : Nat) : Bytes :=
  let row : Bytes := match r.mode with
    | .bilevel | .gray | .indexed => Png.writtenRow r y
    | mode => Array.ofFn (n := r.width * mode.bytes) fun i =>
        let c := i.val % mode.bytes
        r.byteAt (i.val / mode.bytes) y (if c < 3 then 2 - c else c)
  row ++ Array.replicate ((4 - row.size % 4) % 4) 0

/-- The bytes of a BMP file. -/
def bytes (r : Raster) : Bytes :=
  let palette := writtenPalette r
  let rows := (List.range r.height).foldl (fun (done : Bytes) i =>
    done ++ writtenRow r (r.height - 1 - i)) #[]
  let start := 54 + 4 * palette.length
  let low4 := Bytes.ofLow 4
  let head := [0x42, 0x4D] ++ low4 (start + rows.size) ++ low4 0 ++ low4 start ++
    low4 40 ++ low4 r.width ++ low4 r.height ++ Bytes.ofLow 2 1 ++ Bytes.ofLow 2 (bitsOf r.mode) ++
    low4 0 ++ low4 rows.size ++ low4 3780 ++ low4 3780 ++ low4 palette.length ++ low4 palette.length
  (head ++ palette.flatMap fun c => [c.2.2, c.2.1, c.1, 0]).toArray ++ rows

end Darkroom.Bmp
