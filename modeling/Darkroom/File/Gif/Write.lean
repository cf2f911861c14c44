/-
# Darkroom.File.Gif.Write -- writing GIF files

Indices are written one code each, with a fresh start before the codes grow.
-/
import Darkroom.File.Gif.Blocks

namespace Darkroom.Gif

set_option autoImplicit false

/-- How many indices are written before the codes start anew. -/
def freshAfter : Nat := 254

/-- The codes of indices of eight bits: a start, the indices, and an end. -/
def codes (indices : Bytes) : List Nat :=
  (List.range indices.size).foldr (fun i rest =>
    if i % freshAfter = 0 then 256 :: indices.at0 i :: rest else indices.at0 i :: rest) [257]

/-- Numbers of `width` bits as bytes, low bits first. -/
def packed (width : Nat) (numbers : List Nat) : Bytes :=
  let (word, count, out) := numbers.foldl (fun (word, count, (out : Bytes)) n =>
    let word := word + n * Nat.pow 2 count
    let count := count + width
    (word / Nat.pow 2 (count / 8 * 8), count % 8, out ++ Bytes.ofLow (count / 8) word)) (0, 0, #[])
  if count = 0 then out else out.push (UInt8.ofNat word)

/-- Bytes in blocks of at most 255, with the empty block behind them; `fuel` is
more than the number of blocks. -/
def blocks (bytes : Bytes) : Nat → Nat → Bytes → Bytes
  | 0, _, done => done
  | fuel + 1, position, done =>
      let part := bytes.slice position 255
      if part.isEmpty then done.push 0
      else blocks bytes fuel (position + 255) (done.push (UInt8.ofNat part.size) ++ part)

/-- The bits of an index that so many colours need. -/
def paletteBits (count : Nat) : Nat :=
  ((List.range 8).find? fun bits => count ≤ Nat.pow 2 (bits + 1)).getD 7

/-- The flags of a palette, and its colours with black behind them. -/
def paletteBytes (p : Option Palette) : Nat × List UInt8 :=
  match p with
  | none => (0, [])
  | some p =>
      let bits := paletteBits p.colors.size
      (128 + bits, (List.range (Nat.pow 2 (bits + 1))).flatMap fun i =>
        let c := p.color (UInt8.ofNat i)
        [c.1, c.2.1, c.2.2])

namespace Control

def bytes (c : Control) : List UInt8 :=
  [0x21, 0xF9, 4, UInt8.ofNat (4 * c.disposal + if c.clear.isSome then 1 else 0)] ++
    Bytes.ofLow 2 c.delay ++ [c.clear.getD 0, 0]

end Control

namespace Image

def bytes (i : Image) : Bytes :=
  let (flags, palette) := paletteBytes i.palette
  let control := (i.control.map (·.bytes)).getD []
  let head := [0x2C] ++ Bytes.ofLow 2 i.area.left ++ Bytes.ofLow 2 i.area.top ++
    Bytes.ofLow 2 i.area.width ++ Bytes.ofLow 2 i.area.height ++ [UInt8.ofNat flags] ++ palette ++ [8]
  let data := packed 9 (codes i.indices)
  blocks data (data.size / 255 + 2) 0 (control ++ head).toArray

end Image

/-- The extension that says how often an animation runs. -/
def loopBytes (count : Nat) : List UInt8 :=
  [0x21, 0xFF, 11] ++ Bytes.ofAscii "NETSCAPE2.0" ++ [3, 1] ++ Bytes.ofLow 2 count ++ [0]

/-- The bytes of a GIF file. -/
def bytes (g : Gif) : Bytes :=
  let (flags, palette) := paletteBytes g.palette
  let head := Bytes.ofAscii "GIF89a" ++ Bytes.ofLow 2 g.width ++ Bytes.ofLow 2 g.height ++
    [UInt8.ofNat flags, g.background, 0] ++ palette ++ (g.loop.map loopBytes).getD []
  g.images.foldl (fun done i => done ++ i.bytes) head.toArray |>.push 0x3B

end Darkroom.Gif
