/-
# Darkroom.File.Png -- reading PNG files

The head of a file says how large the picture is and what its samples are.  The
file is recognised when the head makes sense and every chunk up to the picture
is sound.  The picture itself may then still be cut or broken: its data must
make all rows, or end with a check sum behind a whole row; the rows that are
left out then are zero.

The chunks behind the picture are read with it, and are looked into as those in
front of it are, but for their check sums.
-/
import Darkroom.File.Inflate
import Darkroom.File.Png.Chunk
import Darkroom.File.Png.Row

namespace Darkroom

set_option autoImplicit false

namespace Png

/-- What the samples of a pixel stand for. -/
inductive Kind
  | gray
  | color
  | indexed
  | grayAlpha
  | colorAlpha
  deriving DecidableEq, Inhabited

namespace Kind

def ofNumber? : Nat → Option Kind
  | 0 => some .gray
  | 2 => some .color
  | 3 => some .indexed
  | 4 => some .grayAlpha
  | 6 => some .colorAlpha
  | _ => none

/-- The number of samples of a pixel. -/
def samples : Kind → Nat
  | .gray | .indexed => 1
  | .grayAlpha => 2
  | .color => 3
  | .colorAlpha => 4

/-- The sizes of samples that a kind may have. -/
def depths : Kind → List Nat
  | .gray => [1, 2, 4, 8, 16]
  | .indexed => [1, 2, 4, 8]
  | _ => [8, 16]

end Kind

/-- How pixels are stored. -/
structure Layout where
  kind : Kind
  /-- The bits of a sample. -/
  depth : Nat
  deriving DecidableEq, Inhabited

namespace Layout

def of? (kind depth : Nat) : Option Layout := do
  let kind ← Kind.ofNumber? kind
  if kind.depths.contains depth then some ⟨kind, depth⟩ else none

/-- The bits of a pixel. -/
def bits (l : Layout) : Nat := l.kind.samples * l.depth

/-- The mode of the raster.  Gray of 16 bits stays as it is; all other samples of
16 bits are cut to their high byte, gray with alpha then counting as colour. -/
def mode (l : Layout) : Mode :=
  match l.kind with
  | .gray => if l.depth = 1 then .bilevel else if l.depth = 16 then .gray16 else .gray
  | .color => .rgb
  | .indexed => .indexed
  | .grayAlpha => if l.depth = 16 then .rgba else .grayAlpha
  | .colorAlpha => .rgba

/-- The byte in channel `c` of pixel `x` of a row. -/
def byte (l : Layout) (row : Bytes) (x c : Nat) : UInt8 :=
  let bytes := l.depth / 8
  let high := fun sample => row.getD ((x * l.kind.samples + sample) * bytes) 0
  match l.kind with
  | .gray =>
      if l.depth = 16 then row.getD (2 * x + (1 - c)) 0
      else Samples.spread l.depth (Samples.small row l.depth x)
  | .indexed => UInt8.ofNat (Samples.small row l.depth x)
  | .grayAlpha => if l.depth = 16 then high (if c = 3 then 1 else 0) else high c
  | .color | .colorAlpha => high c

end Layout

/-- What the chunks in front of a picture say. -/
structure Head where
  width : Nat := 0
  height : Nat := 0
  layout : Option Layout := none
  interlaced : Bool := false
  palette : Bytes := #[]
  transparency : Transparency := .none

namespace Head

/-- The alphas of a palette.  A single see-through index among opaque ones is a key. -/
def alphas (bytes : Bytes) : Transparency :=
  let rest := bytes.toList.dropWhile (· == 255)
  match rest with
  | 0 :: rest =>
      if rest.all (· == 255) then .key (bytes.size - 1 - rest.length : Nat) else .alphas bytes
  | _ => .alphas bytes

/-- What a chunk says of see-through pixels. -/
def withTransparency (h : Head) (bytes : Bytes) : Option Head :=
  match h.layout.map Layout.mode with
  | some Mode.indexed => some { h with transparency := alphas bytes }
  | some Mode.rgb => do
      let red ← bytes.high16? 0
      let green ← bytes.high16? 2
      let blue ← bytes.high16? 4
      return { h with transparency := .color red green blue }
  | some Mode.bilevel | some Mode.gray | some Mode.gray16 => do
      let value ← bytes.high16? 0
      return { h with transparency := .key value }
  | _ => some h

/-- What the first chunk says. -/
def withSize (h : Head) (bytes : Bytes) : Except Damage Head :=
  match bytes.high32? 0, bytes.high32? 4 with
  | some width, some height =>
      if bytes.size < 13 then .error .misfit
      else if bytes.at0 11 ≠ 0 then .error .broken
      else .ok { h with
        width, height
        layout := Layout.of? (bytes.at0 9) (bytes.at0 8)
        interlaced := h.interlaced || bytes.at0 12 ≠ 0 }
  | _, _ => .error .misfit

/-- The byte behind the name of a packed text, which says how it is packed. -/
def textPacking (bytes : Bytes) : UInt8 :=
  ((bytes.toList.dropWhile (· ≠ 0)).drop 1).headD 0

/-- The byte behind the name of a packed profile, or the first one where the name does
not end. -/
def profilePacking? (bytes : Bytes) : Option UInt8 :=
  match bytes.toList.dropWhile (· ≠ 0) with
  | _ :: behind => behind.head?
  | [] => bytes.toList.head?

/-- What is wrong with a chunk that says nothing of the pixels. -/
def flaw? (c : Chunk) (bytes : Bytes) : Option Damage :=
  if c.isNamed "gAMA" then if bytes.size < 4 then some .header else none
  else if c.isNamed "cHRM" then if bytes.size % 4 ≠ 0 then some .header else none
  else if c.isNamed "sRGB" then if bytes.size < 1 then some .misfit else none
  else if c.isNamed "pHYs" then if bytes.size < 9 then some .misfit else none
  else if c.isNamed "zTXt" then if textPacking bytes ≠ 0 then some .broken else none
  else if c.isNamed "iCCP" then match profilePacking? bytes with
    | none => some .body
    | some packing => if packing ≠ 0 then some .broken else none
  else none

/-- The head with what one more chunk says, or what is wrong with that. -/
def withChunk (data : Bytes) (h : Head) (c : Chunk) : Except Damage Head :=
  let bytes := c.bytes data
  if !c.isWhole data then .error .pixels
  else if c.isNamed "IHDR" then h.withSize bytes
  else if c.isNamed "PLTE" then
    .ok (if h.layout.map (·.kind) = some .indexed then { h with palette := bytes } else h)
  else if c.isNamed "tRNS" then match h.withTransparency bytes with
    | some h => .ok h
    | none => .error .header
  else match flaw? c bytes with
    | some d => .error d
    | none => .ok h

/-- Read chunks up to the picture; the chunks from the first one of the picture
on are left over. -/
def read (data : Bytes) : Head → List Chunk → Except Damage (Head × List Chunk)
  | _, [] => .error .broken
  | h, c :: rest =>
      if c.isNamed "IDAT" || c.isNamed "IEND" then .ok (h, c :: rest)
      else do
        let h ← h.withChunk data c
        if c.isSound data then read data h rest else .error .broken

/-- Read the chunks behind the picture.  What they say of see-through pixels is all
that counts of them. -/
def readRest (data : Bytes) : Head → List Chunk → Except Damage Transparency
  | h, [] => .ok h.transparency
  | h, c :: rest =>
      if c.isNamed "IEND" then .ok h.transparency
      else do readRest data (← h.withChunk data c) rest

/-- The colours of the palette. -/
def colors (h : Head) : Palette :=
  ⟨Array.ofFn (n := h.palette.size / 3) fun i =>
    (h.palette.getD (3 * i) 0, h.palette.getD (3 * i + 1) 0, h.palette.getD (3 * i + 2) 0)⟩

def passes (h : Head) : List Pass :=
  if h.interlaced then
    Pass.interlaced.filter fun p => 0 < p.columns h.width && 0 < p.rows h.height
  else [.whole]

def shape (h : Head) (l : Layout) (p : Pass) : Shape :=
  ⟨Samples.bytesFor (p.columns h.width) l.bits, p.rows h.height, (l.bits + 7) / 8⟩

/-- The raster of unpacked rows. -/
def raster (h : Head) (l : Layout) (rows : List (Pass × Array Bytes)) : Raster :=
  let row := fun x y => (rows.findSome? fun (p, rows) =>
    (p.place? x y).map fun (column, row) => (rows.getD row #[], column)).getD (#[], 0)
  { Raster.tabulate l.mode h.width h.height fun x y c =>
      let (row, column) := row x y
      l.byte row column c with
    palette := if l.kind = .indexed then h.colors else ⟨#[]⟩
    transparency := h.transparency }

/-- The rows of the picture in packed data. -/
def unpacked (h : Head) (l : Layout) (packed : Bytes) : Except Flaw (List (Pass × Array Bytes)) :=
  let shapes := h.passes.map (h.shape l)
  let need := (shapes.map Shape.size).foldl (· + ·) 0
  let (data, ending) := Inflate.wrapped packed (need + 1)
  let rows := match Shape.rows data shapes 0 with
    | some rows => .ok (h.passes.zip rows)
    | none => .error .broken
  match ending with
  | .enough => rows
  | .finished => if Shape.endsRow shapes data.size then rows else .error .broken
  | .flawed .cut => if need ≤ data.size then rows else do
      let _ ← rows
      .error .cut
  | .flawed .broken => .error .broken

/-- The picture behind the head, with the chunks that were left over.  Where it is cut
a chunk that goes on with it is looked for; one without a name makes the file broken. -/
def picture (data : Bytes) (h : Head) (l : Layout) (chunks : List Chunk) : Except Damage Raster :=
  let parts := chunks.takeWhile fun c => c.isNamed "IDAT"
  let rest := chunks.dropWhile fun c => c.isNamed "IDAT"
  let packed := (parts.map (·.bytes data)).foldl (· ++ ·) #[]
  let behind := (parts.getLast?.map Chunk.next).getD 0
  if parts.isEmpty then .error .pixels
  else if l.kind = .indexed && 256 < h.colors.colors.size then .error .misfit
  else match h.unpacked l packed with
    | .error .cut => .error (if rest.isEmpty && behind + 4 ≤ data.size then .broken else .pixels)
    | .error .broken => do
        let _ ← readRest data h rest
        .error .pixels
    | .ok rows => do
        let transparency ← readRest data h rest
        return { h with transparency }.raster l rows

end Head

/-- What is found in a file; nothing when it is no PNG file. -/
def recognised (data : Bytes) : Recognised :=
  if !data.startsWith mark then none
  else match Head.read data {} (Chunk.all data) with
    | .error .misfit => some (.error .misfit)
    | .error _ => none
    | .ok (head, chunks) => do
        let layout ← head.layout
        Recognised.sized head.width head.height (.ofPicture Format.png.tag (head.picture data layout chunks))

end Png

end Darkroom
