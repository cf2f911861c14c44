/-
# Darkroom.File.Png.Write -- writing PNG files

A picture is written in the layout of its mode, without a guess for any row.
-/
import Darkroom.File.Deflate
import Darkroom.File.Png
import Darkroom.Raster.Palette

namespace Darkroom.Png

set_option autoImplicit false

/-- A chunk with its length and its check sum. -/
def chunk (name : String) (bytes : Bytes) : Bytes :=
  let body := (Bytes.ofAscii name).toArray ++ bytes
  (Bytes.ofHigh 4 bytes.size).toArray ++ body ++ Bytes.ofHigh 4 (Checksum.crc32 body).toNat

/-- The number of a kind. -/
def Kind.number : Kind → Nat
  | .gray => 0
  | .color => 2
  | .indexed => 3
  | .grayAlpha => 4
  | .colorAlpha => 6

/-- The layout that a mode is written in. -/
def layoutOf : Mode → Layout
  | .bilevel => ⟨.gray, 1⟩
  | .gray => ⟨.gray, 8⟩
  | .gray16 | .int32 => ⟨.gray, 16⟩
  | .grayAlpha => ⟨.grayAlpha, 8⟩
  | .indexed => ⟨.indexed, 8⟩
  | .rgba => ⟨.colorAlpha, 8⟩
  | _ => ⟨.color, 8⟩

/-- Eight pixels of black and white from column `x` on as a byte. -/
def packedByte (r : Raster) (x y : Nat) : UInt8 :=
  UInt8.ofNat <| (List.range 8).foldl (fun n i =>
    2 * n + if r.byteAt (x + i) y 0 = 0 || r.width ≤ x + i then 0 else 1) 0

/-- A sample of 16 bits, held to its range. -/
def wideSample (r : Raster) (x y : Nat) : Nat :=
  if r.mode = .int32 then (max 0 (min 65535 (signed32 (r.wordAt x y)))).toNat else r.wordAt x y

/-- A row as it is written. -/
def writtenRow (r : Raster) (y : Nat) : Bytes :=
  match r.mode with
  | .bilevel => Array.ofFn (n := (r.width + 7) / 8) fun i => packedByte r (8 * i.val) y
  | .gray16 | .int32 =>
      (List.range r.width).foldl (fun done x => done ++ Bytes.ofHigh 2 (wideSample r x y)) #[]
  | mode => r.data.extract (y * r.width * mode.bytes) ((y + 1) * r.width * mode.bytes)

/-- What is said of see-through pixels, when anything is. -/
def transparencyBytes (r : Raster) : Option Bytes :=
  match r.transparency with
  | .none => none
  | .key value =>
      if r.mode = .indexed then
        some ((Array.replicate value.toNat 255).push 0)
      else some (Bytes.ofHigh 2 value.toNat).toArray
  | .color red green blue =>
      some ([red, green, blue].flatMap fun c => Bytes.ofHigh 2 c.toNat).toArray
  | .alphas values => some values

/-- The bytes of a PNG file. -/
def bytes (r : Raster) : Bytes :=
  let layout := layoutOf r.mode
  let head := Bytes.ofHigh 4 r.width ++ Bytes.ofHigh 4 r.height ++
    [UInt8.ofNat layout.depth, UInt8.ofNat layout.kind.number, 0, 0, 0]
  let rows := (List.range r.height).foldl (fun (done : Bytes) y =>
    done.push 0 ++ writtenRow r y) #[]
  let palette := if r.mode = .indexed then chunk "PLTE" r.palette.bytes.toArray else #[]
  let clear := (transparencyBytes r).map (chunk "tRNS")
  mark.toArray ++ chunk "IHDR" head.toArray ++ palette ++ clear.getD #[] ++
    chunk "IDAT" (Deflate.wrapped rows) ++ chunk "IEND" #[]

end Darkroom.Png
