/-
# Darkroom.File.Gif -- what a GIF file holds, and what it shows

A GIF file is a screen with a palette and a run of images, each a rectangle of
palette indices that is drawn over what the screen shows already.  Before the
next image is drawn the rectangle is disposed of: left alone, filled, or put
back to what it was.

The screen starts out flat, as palette indices.  With the second image it turns
to colours; a screen without a palette stays flat until an image with one is
drawn on it.  A palette that says nothing but "index `i` is gray `i`" counts as
none.  An image that sticks out makes the screen larger.
-/
import Darkroom.Container

namespace Darkroom

set_option autoImplicit false

namespace Gif

/-- A rectangle on the screen. -/
structure Area where
  left : Nat
  top : Nat
  width : Nat
  height : Nat
  deriving DecidableEq, Inhabited

namespace Area

def holds (a : Area) (x y : Nat) : Bool :=
  a.left ≤ x && x < a.left + a.width && a.top ≤ y && y < a.top + a.height

end Area

/-- What stands in front of an image. -/
structure Control where
  disposal : Nat
  /-- How long the image stays, in hundredths of a second. -/
  delay : Nat
  /-- The index that is not drawn. -/
  clear : Option UInt8
  deriving DecidableEq, Inhabited

structure Image where
  area : Area
  /-- The indices of the area, row by row. -/
  indices : Array UInt8
  palette : Option Palette
  control : Option Control
  deriving Inhabited

/-- The index at a place of the screen inside the area. -/
def Image.indexAt (i : Image) (x y : Nat) : UInt8 :=
  i.indices.getD ((y - i.area.top) * i.area.width + (x - i.area.left)) 0

def Image.clear (i : Image) : Option UInt8 := i.control.bind (·.clear)

end Gif

structure Gif where
  width : Nat
  height : Nat
  palette : Option Palette
  background : UInt8
  loop : Option Nat
  images : List Gif.Image
  damage : Option Damage

namespace Gif

/-- Every index stands for the gray of the same number. -/
def isGrayRamp (p : Palette) : Bool :=
  (List.range p.colors.size).all fun i =>
    let v := UInt8.ofNat i
    i < 256 && p.colors.getD i (0, 0, 0) == (v, v, v)

/-- A palette that matters. -/
def needed (p : Option Palette) : Option Palette := p.filter fun p => !isGrayRamp p

/-- The palette of an image: its own or else that of the screen. -/
def paletteFor (g : Gif) (i : Image) : Option Palette :=
  match i.palette with
  | some p => needed (some p)
  | none => needed g.palette

/-- The colour of an index. -/
def colorOf (p : Option Palette) (index : UInt8) : UInt8 × UInt8 × UInt8 :=
  match p with
  | some p => p.color index
  | none => (index, index, index)

/-- The colour that a rectangle is filled with; an index beyond the palette
counts as the first. -/
def fillColor (p : Option Palette) (index : UInt8) : UInt8 × UInt8 × UInt8 :=
  match p with
  | some p => if index.toNat < p.colors.size then p.color index else p.color 0
  | none => (index, index, index)

/-- What the screen shows. -/
inductive Surface
  /-- Indices; a surface that turns becomes colours with the next image. -/
  | flat (palette : Option Palette) (turns : Bool) (indices : Raster)
  /-- Colours in RGBA; the alpha of an opaque surface has no meaning. -/
  | color (opaque_ : Bool) (pixels : Raster)

namespace Surface

def size : Surface → Nat × Nat
  | .flat _ _ r => (r.width, r.height)
  | .color _ r => (r.width, r.height)

/-- A surface of another size; what is new is index zero, or `fill`. -/
def resized (s : Surface) (width height : Nat) : Surface :=
  let grown := fun (r : Raster) => r.remap width height fun x y c =>
    if x < r.width ∧ y < r.height then r.byteAt x y c else 0
  match s with
  | .flat p turns r => .flat p turns (grown r)
  | .color opaque_ r => .color opaque_ (grown r)

end Surface

/-- What is put into a rectangle when its image goes. -/
inductive Disposal
  | keep
  | fillIndex (area : Area) (index : UInt8)
  | fillColor (area : Area) (pixel : Rgba)
  /-- The surface as it was; where it did not reach there are zeros. -/
  | restore (area : Area) (before : Surface)

/-- What the screen shows and what will happen to it. -/
structure Screen where
  surface : Surface
  /-- The index of the first image that is not drawn. -/
  key : Option UInt8
  /-- The disposal in force; an image without one of its own keeps it. -/
  method : Nat
  disposal : Disposal

/-- Bytes put into an area. -/
def painted (r : Raster) (a : Area) (pixel : Nat → Nat → Nat → UInt8) : Raster :=
  r.remap r.width r.height fun x y c => if a.holds x y then pixel x y c else r.byteAt x y c

/-- The raster below a surface. -/
def Surface.raster : Surface → Raster
  | .flat _ _ r => r
  | .color _ r => r

/-- Carry out a disposal. -/
def Disposal.apply (d : Disposal) (s : Surface) : Surface :=
  let put := fun (a : Area) (pixel : Nat → Nat → Nat → UInt8) => match s with
    | .flat p turns r => Surface.flat p turns (painted r a pixel)
    | .color opaque_ r => .color opaque_ (painted r a pixel)
  match d with
  | .keep => s
  | .fillIndex a index => put a fun _ _ _ => index
  | .fillColor a pixel => put a fun _ _ c => pixel.channel c
  | .restore a before => put a fun x y c =>
      let old := before.raster
      if x < old.width ∧ y < old.height then old.byteAt x y c else 0

/-- The surface with the next image coming: what turns is colours now.  Where a
surface without a palette has a key, it cannot turn. -/
def Surface.turned (s : Surface) (key : Option UInt8) : Option Surface :=
  match s with
  | .flat (some p) true r =>
      some <| .color key.isNone <| Raster.ofPixels r.width r.height fun x y =>
        let index := r.byteAt x y 0
        .ofColor (p.color index) (if key = some index then 0 else 255)
  | .flat none true r =>
      if key.isSome then none
      else some <| .color true <| Raster.ofPixels r.width r.height fun x y =>
        .ofGray (r.byteAt x y 0) 255
  | s => some s

/-- The pixel that a filled rectangle gets when its image goes. -/
def fillPixel (g : Gif) (palette : Option Palette) (clear : Option UInt8) : Rgba :=
  match clear with
  | some index => .ofColor (Gif.fillColor palette index) 0
  | none => .ofColor (Gif.fillColor palette g.background) 255

/-- What will happen to an image on a surface, before it is drawn. -/
def disposalOf (g : Gif) (i : Image) (method : Nat) (key : Option UInt8) (s : Option Surface) :
    Disposal :=
  if method < 2 then .keep
  else if method = 2 then
    match s with
    | some (.color _ _) => .fillColor i.area (fillPixel g (g.paletteFor i) i.clear)
    | _ => .fillIndex i.area ((key.or i.clear).getD g.background)
  else
    match s with
    | some s => .restore i.area s
    | none => match i.clear with
      | some index => .fillIndex i.area index
      | none => .keep

/-- Draw an image on a surface that is large enough. -/
def Surface.drawn (s : Surface) (i : Image) (palette : Option Palette) : Surface :=
  let shown := fun x y => i.area.holds x y && i.clear != some (i.indexAt x y)
  match s with
  | .flat p turns r =>
      .flat p (turns || palette.isSome) <| r.remap r.width r.height fun x y c =>
        if shown x y then i.indexAt x y else r.byteAt x y c
  | .color opaque_ r =>
      .color opaque_ <| Raster.ofPixels r.width r.height fun x y =>
        if shown x y then .ofColor (colorOf palette (i.indexAt x y)) 255 else
          ⟨r.byteAt x y 0, r.byteAt x y 1, r.byteAt x y 2, r.byteAt x y 3⟩

/-- The size that a surface needs for an image. -/
def Surface.sizeFor (s : Surface) (i : Image) : Nat × Nat :=
  (max s.size.1 (i.area.left + i.area.width), max s.size.2 (i.area.top + i.area.height))

/-- An image makes a surface larger than what is read. -/
def Surface.outgrows (s : Surface) (i : Image) : Bool :=
  let size := s.sizeFor i
  size ≠ s.size && mostPixels < size.1 * size.2

/-- A surface made large enough for an image. -/
def Surface.fitted (s : Surface) (i : Image) : Surface :=
  let size := s.sizeFor i
  if size = s.size then s
  else match s.resized size.1 size.2 with
    | .color _ r => .color i.clear.isNone r
    | grown => grown

/-- The picture that a surface shows. -/
def Surface.picture (s : Surface) (key : Option UInt8) : Raster :=
  let transparency := match key with
    | some index => Transparency.key index.toNat
    | none => .none
  match s with
  | .flat (some p) _ r =>
      { Raster.tabulate .indexed r.width r.height fun x y _ => r.byteAt x y 0 with
        palette := p, transparency := transparency }
  | .flat none _ r => { r with transparency := transparency }
  | .color true r => r.withoutAlpha
  | .color false r => r

/-- The disposal in force once an image is there. -/
def methodAfter (method : Nat) (i : Image) : Nat :=
  match i.control with
  | some c => if c.disposal = 0 then method else c.disposal
  | none => method

/-- The screen with its first image. -/
def firstScreen (g : Gif) (i : Image) : Screen :=
  let width := max g.width (i.area.left + i.area.width)
  let height := max g.height (i.area.top + i.area.height)
  let palette := g.paletteFor i
  let empty := Raster.filled .gray width height fun _ => i.clear.getD 0
  let indices := painted empty i.area fun x y _ => i.indexAt x y
  let method := methodAfter 0 i
  ⟨.flat palette palette.isSome indices, i.clear, method, disposalOf g i method none none⟩

/-- The screen with one more image. -/
def Screen.next (g : Gif) (screen : Screen) (i : Image) : Option Screen := do
  let surface ← (screen.disposal.apply screen.surface).turned screen.key
  let key := match surface with
    | .flat .. => screen.key
    | .color .. => none
  let method := methodAfter screen.method i
  return ⟨(surface.fitted i).drawn i (g.paletteFor i), key, method,
    disposalOf g i method key (some surface)⟩

/-- The frame that a screen shows. -/
def Screen.frame (screen : Screen) (i : Image) : Frame :=
  ⟨screen.surface.picture screen.key,
    ⟨(i.control.map (·.delay)).getD 0 * 10, screen.method⟩⟩

/-- The picture on a screen has colours to convert. -/
def Screen.isSound (screen : Screen) : Bool :=
  match screen.surface with
  | .flat none true _ => screen.key.isNone
  | _ => true

/-- The frames from the second on, and what is wrong with the one behind them. -/
def framesAfter (g : Gif) (screen : Screen) : List Image → List Frame × Option Damage
  | [] => ([], g.damage)
  | i :: rest =>
      if screen.surface.outgrows i then ([], some .oversized)
      else match screen.next g i with
        | none => ([], some .misfit)
        | some next =>
            if next.isSound then
              let (frames, damage) := framesAfter g next rest
              (next.frame i :: frames, damage)
            else ([], some .misfit)

/-- What is found in a file; nothing when it holds no image. -/
def container? (g : Gif) : Opened :=
  let loop := g.loop.map fun n => (n : Int)
  match g.images with
  | [] => g.damage.map fun d => ⟨Format.gif.tag, [], some d, loop⟩
  | first :: rest =>
      let screen := firstScreen g first
      let (frames, damage) := framesAfter g screen rest
      some ⟨Format.gif.tag, screen.frame first :: frames, damage, loop⟩

/-- The file as it is found again. -/
def container (g : Gif) : Container :=
  g.container?.getD (.damaged Format.gif.tag .pixels)

end Gif

end Darkroom
