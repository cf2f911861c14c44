/-
# Darkroom.Encoding -- what is handed to the writer of a file

An `Encoding` is a file before it is turned into bytes: its format, the picture
or pictures as the writer gets them, and the parameters of the writing.  JPEG
pictures are stamped with a mark first and lose their alpha; GIF pictures are
reduced to the fixed palette; the other formats take a picture as it is.

Each format takes some modes only, and sides and times within the fields of its
file.  `Encoding.container` says what is found when the file is opened again.
-/
import Darkroom.File.Gif
import Darkroom.File.Jpeg.Plane
import Darkroom.Raster.Dither
import Darkroom.Watermark

namespace Darkroom

set_option autoImplicit false

inductive Encoding
  | jpeg (picture : Raster) (quality : Value)
  | png (picture : Raster)
  | tiff (picture : Raster)
  | bmp (picture : Raster)
  | gif (picture : Raster)
  | animation (a : Animation)

namespace Encoding

def format : Encoding → Format
  | .jpeg _ _ => .jpeg
  | .png _ => .png
  | .tiff _ => .tiff
  | .bmp _ => .bmp
  | .gif _ | .animation _ => .gif

/-- The pictures handed to the writer. -/
def pictures : Encoding → List Raster
  | .jpeg r _ | .png r | .tiff r | .bmp r | .gif r => [r]
  | .animation a => a.written.map (·.picture)

def size : Encoding → Nat × Nat
  | .jpeg r _ | .png r | .tiff r | .bmp r | .gif r => (r.width, r.height)
  | .animation a => (a.width, a.height)

/-! ## What the formats take -/

def pngModes : List Mode :=
  [.bilevel, .gray, .grayAlpha, .int32, .gray16, .indexed, .rgb, .rgba]

def tiffModes : List Mode :=
  [.bilevel, .gray, .grayAlpha, .indexed, .indexedAlpha, .rgb, .rgba, .rgbx, .cmyk, .gray16,
    .int32, .float32]

/-- The modes that BMP pictures keep; others become RGB or RGBA. -/
def bmpModes : List Mode := [.bilevel, .gray, .indexed, .rgb, .rgba]

/-- The longest side of a JPEG picture. -/
def longestJpegSide : Nat := 65500

/-- The largest number of a two-byte field. -/
def largestField : Nat := 65535

/-- A picture that the writer takes only in some modes. -/
def checked (modes : List Mode) (r : Raster) : Outcome Raster :=
  if modes.contains r.mode then .ok r else .error .refusedPicture

/-- A number for a two-byte field. -/
def checkedField (n : Int) : Outcome Unit :=
  if 0 ≤ n ∧ n ≤ largestField then .ok () else .error .unrecordable

/-- The quality of a JPEG file is a whole number. -/
def checkedQuality (quality : Value) : Outcome Unit :=
  match quality with
  | .list _ | .record _ => .error .wrongType
  | quality => match quality.number? with
    | some (.int n) =>
        if -0x8000000000000000 ≤ n ∧ n < 0x8000000000000000 then .ok () else .error (.arithmetic .overflow)
    | _ => .error .refusedQuality

/-! ## Making -/

/-- A stamped picture without its alpha. -/
def stampedJpeg (r : Raster) (quality : Value) (marks : Option Marks) : Logged Encoding :=
  match marks with
  | none => Logged.fail .assetsRequired
  | some marks => do
      let (_, stamped) ← Watermark.compose r marks Watermark.defaultOpacity
      let opaque_ ← stamped.toRgb
      checkedQuality quality
      if opaque_.width ≤ longestJpegSide ∧ opaque_.height ≤ longestJpegSide then
        return .jpeg opaque_ quality
      else Logged.fail .refusedPicture

def palettedGif (r : Raster) : Outcome Encoding := do
  let reduced ← r.paletted 256
  checkedField reduced.width
  checkedField reduced.height
  return .gif reduced

/-- The encoding of one picture.  Only JPEG looks at the quality and the marks. -/
def ofPicture (r : Raster) (format : Format) (quality : Value) (marks : Option Marks) :
    Logged Encoding :=
  match format with
  | .jpeg => stampedJpeg r quality marks
  | .png => do return .png (← checked pngModes r)
  | .gif => do return ← palettedGif r
  | .tiff => do return .tiff (← checked tiffModes r)
  | .bmp => do
      if bmpModes.contains r.mode then return .bmp r else return .bmp (← r.normalized)

/-- The delay of a shot in hundredths of a second. -/
def delay (t : Timing) : Int := t.duration.tdiv 10

/-- The encoding of an animation. -/
def ofAnimation (a : Animation) : Outcome Encoding := do
  checkedField a.width
  checkedField a.height
  if let some n := a.loop then checkedField n
  for s in a.written do checkedField (delay s.timing)
  return .animation a

/-! ## Reading back -/

/-- A file of one picture, as it is found again. -/
def stored (format : Format) (r : Raster) : Container :=
  .single format.tag <| match format with
    | .bmp => if r.mode = .rgba then r.withoutAlpha else r
    | .tiff => { r with transparency := .none }
    | _ => r

/-- A picture as indices; one that has no palette gets the fixed one. -/
def indexed (r : Raster) : Raster :=
  if r.mode = .indexed then r
  else (Raster.tabulate .rgb r.width r.height fun x y c => (r.pixelAt x y).channel c).dithered
    .fixed Raster.fixedChart

/-- A shot as an image of a GIF file; it has a control if there is anything to say. -/
def gifImage (s : Shot) : Gif.Image :=
  let r := indexed s.picture
  let delay := (delay s.timing).toNat
  let disposal := (s.timing.disposal % 8).toNat
  { area := ⟨0, 0, r.width, r.height⟩
    indices := r.data
    palette := some r.palette
    control := if delay = 0 ∧ disposal = 0 then none else some ⟨disposal, delay, none⟩ }

/-- An animation as a GIF file. -/
def gifFile (a : Animation) : Gif :=
  { width := a.width
    height := a.height
    palette := none
    background := 0
    loop := a.loop.map Int.toNat
    images := a.written.map gifImage
    damage := none }

/-- The number that a JPEG file is written with. -/
def qualityNumber (quality : Value) : Int :=
  match quality.number? with
  | some (.int n) => n
  | _ => -1

/-- What is found in the file. -/
def container : Encoding → Container
  | .jpeg r quality => stored .jpeg (Jpeg.settled r (qualityNumber quality))
  | .png r => stored .png r
  | .tiff r => stored .tiff r
  | .bmp r => stored .bmp r
  | .gif r => stored .gif r
  | .animation a => (gifFile a).container

end Encoding

end Darkroom
