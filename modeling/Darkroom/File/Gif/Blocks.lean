/-
# Darkroom.File.Gif.Blocks -- the bytes of a GIF file

A GIF file is a head with the size of the screen and its palette, and a run of
extensions and images.  Both hold their bytes in blocks, each with its length in
front; a block of length zero ends them.

An image without an end mark goes on in the blocks behind it.  The first image
has to be there for the file to be recognised; its pixels, and all that follows,
may be cut or broken.
-/
import Darkroom.File.Gif
import Darkroom.File.Gif.Strings
import Darkroom.File.Samples

namespace Darkroom.Gif

set_option autoImplicit false

/-! ## Blocks -/

/-- The block at a position, when it is not empty, and where it ends.  A block
may be cut short. -/
def block (data : Bytes) (position : Nat) : Option Bytes × Nat :=
  let length := data.at0 position
  if length = 0 then (none, min data.size (position + 1))
  else (some (data.slice (position + 1) length), min data.size (position + 1 + length))

/-- Where blocks end; `fuel` is at least the number of bytes. -/
def skipBlocks (data : Bytes) : Nat → Nat → Nat
  | 0, position => position
  | fuel + 1, position => match block data position with
    | (some bytes, next) => if bytes.isEmpty then next else skipBlocks data fuel next
    | (none, next) => next

/-- The bytes of whole blocks in a row, up to the block of length zero or, where
`onward`, across it. -/
def joinBlocks (data : Bytes) (onward : Bool) : Nat → Nat → Bytes → Bytes
  | 0, _, done => done
  | fuel + 1, position, done =>
      let length := data.at0 position
      if data.size < position + 1 + length then done
      else if length = 0 && !onward then done
      else joinBlocks data onward fuel (position + 1 + length)
        (done ++ data.slice (position + 1) length)

/-! ## Images -/

/-- The rows in the order in which an interlaced image has them. -/
def interlacedRows (height : Nat) : List Nat :=
  [(0, 8), (4, 8), (2, 4), (1, 2)].flatMap fun (first, step) =>
    (List.range ((height + step - 1 - first) / step)).map fun i => first + i * step

/-- The head of an image. -/
structure Descriptor where
  area : Area
  interlaced : Bool
  palette : Option Palette
  /-- The bits of an index. -/
  bits : Nat
  /-- Where the blocks of the image start. -/
  start : Nat

/-- The palette of `count` colours at a position. -/
def paletteAt (data : Bytes) (position count : Nat) : Palette :=
  ⟨Array.ofFn (n := count) fun i =>
    let at_ := fun k => data.getD (position + 3 * i + k) 0
    (at_ 0, at_ 1, at_ 2)⟩

/-- The palette that flags announce: its number of colours. -/
def announced (flags : Nat) : Option Nat :=
  if 128 ≤ flags then some (Nat.pow 2 (flags % 8 + 1)) else none

namespace Descriptor

/-- The head at a position. -/
def read (data : Bytes) (position : Nat) : Except Damage Descriptor :=
  match data.low16? position, data.low16? (position + 2), data.low16? (position + 4),
      data.low16? (position + 6) with
  | some left, some top, some width, some height =>
      let flags := data.at0 (position + 8)
      let colors := announced flags
      let start := position + 9 + 3 * colors.getD 0
      if data.size ≤ start then .error .body
      else .ok {
        area := ⟨left, top, width, height⟩
        interlaced := flags / 64 % 2 = 1
        palette := colors.map (paletteAt data (position + 9))
        bits := data.at0 start
        start := start + 1 }
  | _, _, _, _ => .error .header

/-- The indices as they are stored. -/
def stored (data : Bytes) (d : Descriptor) : Except Flaw Bytes :=
  let need := d.area.width * d.area.height
  match unpack (joinBlocks data false data.size d.start #[]) d.bits need with
  | .error .cut => unpack (joinBlocks data true data.size d.start #[]) d.bits need
  | result => result

/-- The indices row by row. -/
def indices (data : Bytes) (d : Descriptor) : Except Damage Bytes :=
  let width := d.area.width
  let height := d.area.height
  if width = 0 || height = 0 then .error .misfit
  else match d.stored data with
    | .error _ => .error .pixels
    | .ok bytes =>
        if d.interlaced then
          let rows := interlacedRows height
          .ok <| Array.ofFn (n := width * height) fun i =>
            bytes.getD (rows.idxOf (i.val / width) * width + i.val % width) 0
        else .ok (bytes.extract 0 (width * height))

end Descriptor

/-! ## What stands in front of an image -/

/-- What has been read in front of an image. -/
structure Front where
  control : Option Control := none
  loop : Option Nat := none

/-- The control with a further control extension.  A disposal of zero and a key
that is not announced leave what was there. -/
def Control.adding (before : Option Control) (bytes : Bytes) : Except Damage Control :=
  let flags := bytes.at0 0
  let disposal := flags / 4 % 8
  let isKeyed := flags % 2 = 1
  match bytes.low16? 1 with
  | none => .error (if bytes.isEmpty || (isKeyed && bytes.size < 4) then .body else .header)
  | some delay =>
      if isKeyed && bytes.size < 4 then .error .body
      else .ok {
        disposal := if disposal = 0 then (before.map (·.disposal)).getD 0 else disposal
        delay
        clear := if isKeyed then some (bytes.getD 3 0) else before.bind (·.clear) }

/-- How often an animation runs, as a block of its extension says. -/
def loopOf (bytes : Option Bytes) : Option Nat :=
  bytes.bind fun b => if b.at0 0 = 1 then b.low16? 1 else none

/-- An extension behind its mark, and where it ends.  Only in front of the first
image is it looked up how often the animation runs. -/
def readExtension (data : Bytes) (isFirst : Bool) (position : Nat) (f : Front) :
    Except Damage (Front × Nat) :=
  if data.size ≤ position then .error .body
  else
    let label := data.at0 position
    let (bytes, next) := block data (position + 1)
    match bytes with
    | none => .ok (f, if label = 254 then next else skipBlocks data data.size next)
    | some bytes =>
        if label = 249 then do
          let control ← Control.adding f.control bytes
          return ({ f with control := some control }, skipBlocks data data.size next)
        else if label = 255 && isFirst && bytes.startsWith (Bytes.ofAscii "NETSCAPE2.0") then
          let (inner, next) := block data next
          .ok ({ f with loop := (loopOf inner).or f.loop }, skipBlocks data data.size next)
        else .ok (f, skipBlocks data data.size next)

/-- The head of the next image, and what stands in front of it; nothing at the
end of the file.  `fuel` is at least the number of bytes. -/
def nextImage (data : Bytes) (isFirst : Bool) : Nat → Nat → Front →
    Except Damage (Option (Front × Descriptor))
  | 0, _, _ => .ok none
  | fuel + 1, position, f =>
      if data.size ≤ position then .ok none
      else match data.at0 position with
        | 0x3B => .ok none
        | 0x21 => do
            let (f, next) ← readExtension data isFirst (position + 1) f
            nextImage data isFirst fuel next f
        | 0x2C => return some (f, ← Descriptor.read data (position + 1))
        | _ => nextImage data isFirst fuel (position + 1) f

/-- The images from a position on, and what is wrong with the one behind them;
`fuel` is at least the number of bytes. -/
def imagesFrom (data : Bytes) : Nat → Nat → List Image × Option Damage
  | 0, _ => ([], none)
  | fuel + 1, position =>
      match nextImage data false data.size position {} with
      | .error damage => ([], some damage)
      | .ok none => ([], none)
      | .ok (some (front, d)) => match d.indices data with
        | .error damage => ([], some damage)
        | .ok indices =>
            let (images, damage) := imagesFrom data fuel (skipBlocks data data.size d.start)
            (⟨d.area, indices, d.palette, front.control⟩ :: images, damage)

/-! ## Files -/

/-- A file up to its first image. -/
structure Head where
  width : Nat
  height : Nat
  palette : Option Palette
  background : UInt8
  front : Front
  first : Descriptor

namespace Head

/-- The head that bytes make, when a first image is announced. -/
def read (data : Bytes) : Option Head := do
  if !(data.startsWith (Bytes.ofAscii "GIF87a") || data.startsWith (Bytes.ofAscii "GIF89a")) then
    none
  let width ← data.low16? 6
  let height ← data.low16? 8
  if data.size < 13 then none
  let colors := announced (data.at0 10)
  match nextImage data true data.size (13 + 3 * colors.getD 0) {} with
  | .ok (some (front, first)) => some {
      width, height
      palette := colors.map (paletteAt data 13)
      background := if colors.isSome then data.getD 11 0 else 0
      front, first }
  | _ => none

/-- The whole file. -/
def file (data : Bytes) (h : Head) : Gif :=
  let (images, damage) := match h.first.indices data with
    | .error damage => ([], some damage)
    | .ok indices =>
        let (images, damage) := imagesFrom data data.size (skipBlocks data data.size h.first.start)
        (⟨h.first.area, indices, h.first.palette, h.front.control⟩ :: images, damage)
  { width := h.width
    height := h.height
    palette := h.palette
    background := h.background
    loop := h.front.loop
    images, damage }

end Head

/-- What is found in a file; nothing when it is no GIF file.  The picture is as large
as the screen with the first image on it. -/
def recognised (data : Bytes) : Recognised := do
  let head ← Head.read data
  let area := head.first.area
  Recognised.sized (max head.width (area.left + area.width)) (max head.height (area.top + area.height))
    (head.file data).container

end Darkroom.Gif
