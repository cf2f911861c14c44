/-
# Darkroom.Container -- what a recognised picture file holds

A file that is recognised gives a tag, the name of the kind of file, and its
pictures in order.  Where the reading breaks off, `damage` says why and `frames`
holds what was read before.  A file may be recognised under a tag that is no
source format, such as a stack of JPEG pictures.

Each kind of damage is a failure of the reader.  A look at a file knows some of
them and says what it likes of those; the others come out as they are.  The
looks differ in what they know: a still picture is asked for with `still`, which
looks at the first frame only and brings it to RGB or RGBA, and knows more than
the way through all frames does.
-/
import Darkroom.Animation
import Darkroom.Log
import Darkroom.Raster.Convert

namespace Darkroom

set_option autoImplicit false

/-! ## Damage -/

/-- Why the reading of a file broke off. -/
inductive Damage
  /-- The pixels of a picture are cut short or make no sense. -/
  | pixels
  /-- A number is cut short. -/
  | header
  /-- A byte is missing. -/
  | body
  /-- The parts of a picture do not fit together. -/
  | misfit
  /-- A further picture does not say how large it is. -/
  | sizeless
  /-- A part of the file is none that its kind of file has. -/
  | broken
  /-- A number is none of those that have a meaning. -/
  | unlisted
  /-- A picture has too many pixels. -/
  | oversized
  deriving DecidableEq, Inhabited, Repr

namespace Damage

/-- The failure of the reader. -/
def raised : Damage → Fault
  | .pixels => .unreadable
  | .header => .unrecordable
  | .body => .missingByte
  | .misfit => .noConversion
  | .sizeless => .wrongType
  | .broken => .brokenFile
  | .unlisted => .unlisted
  | .oversized => .oversized

/-- What comes of damage in a look that knows some of it. -/
def toldAs (known : List Damage) (told : Fault) (d : Damage) : Fault :=
  if known.contains d then told else d.raised

/-- The damage that is known where a still picture is looked at. -/
def knownStill : List Damage := [.pixels, .broken, .misfit, .oversized]

/-- The damage that is known on the way through the frames. -/
def knownFrame : List Damage := [.pixels, .broken]

/-- What is said of damage to a still picture. -/
def stillFault : Damage → Fault := toldAs knownStill .undecodable

/-- What is said of damage met on the way through the frames. -/
def fault : Damage → Fault := toldAs knownFrame .undecodableFrame

end Damage

/-! ## Files -/

/-- One picture of a file, with its place in time. -/
structure Frame where
  picture : Raster
  timing : Timing := {}

structure Container where
  tag : String
  frames : List Frame
  damage : Option Damage := none
  loop : Option Int := none

/-- The most pixels that are read. -/
def mostPixels : Nat := 178956970

namespace Container

/-- A file of one picture. -/
def single (tag : String) (picture : Raster) : Container := ⟨tag, [⟨picture, {}⟩], none, none⟩

/-- A file whose first picture cannot be read. -/
def damaged (tag : String) (d : Damage) : Container := ⟨tag, [], some d, none⟩

/-- A file of one picture, if that can be read. -/
def ofPicture (tag : String) : Except Damage Raster → Container
  | .ok picture => single tag picture
  | .error d => damaged tag d

/-- The tag of a stack of JPEG pictures. -/
def stackTag : String := "MPO"

/-- A stack of a single picture is a JPEG file. -/
def adopted (c : Container) : Container :=
  if c.tag = stackTag ∧ c.frames.length < 2 ∧ c.damage = none then { c with tag := Format.jpeg.tag }
  else c

/-- The format of the file, when its tag is one. -/
def format? (c : Container) : Option Format := Format.ofKey? (Format.nameKey c.tag)

/-- The file is an animation by kind. -/
def isAnimationFile (c : Container) : Bool := c.tag == Format.gif.tag

end Container

/-- What a file is recognised as: nothing, or a kind of file whose head is
damaged, or a file with what it holds. -/
abbrev Recognised := Option (Except Damage Container)

/-- A file that says how large its picture is; it is looked into only if it says
something that makes sense. -/
@[macro_inline]
def Recognised.sized (width height : Nat) (found : Container) : Recognised :=
  if width = 0 || height = 0 then none
  else if mostPixels < width * height then some (.error .oversized)
  else some (.ok found)

/-- What opening a file gives: nothing when it is not recognised. -/
abbrev Opened := Option Container

/-- A source with a damaged head counts as not recognised. -/
def Recognised.opened (r : Recognised) : Opened := r.bind Except.toOption

namespace Opened

/-- The container, when the file is recognised. -/
def container (s : Opened) : Outcome Container :=
  match s with
  | some c => .ok c
  | none => .error .unidentified

/-- The format of a file, by its head alone. -/
def probe (s : Opened) : Outcome Format := do
  let c ← s.container
  match c.format? with
  | some f => .ok f
  | none => .error (.unsupportedFormat (.text c.tag))

/-- The first picture of a file, in RGB or RGBA, and the format of the file. -/
def still (s : Opened) : Logged (Raster × Format) := do
  let c ← s.container
  match c.frames with
  | [] => Logged.fail ((c.damage.map (·.stillFault)).getD .undecodable)
  | first :: _ => match c.format? with
    | none => Logged.fail (.unsupportedSource c.tag)
    | some format => match first.picture.normalized with
      | .error _ => Logged.fail .undecodable
      | .ok r =>
          Logged.note (.decoded format r.width r.height r.mode)
          return (r, format)

end Opened

end Darkroom
