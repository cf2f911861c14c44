/-
# Darkroom.Format -- the five picture formats and their names

A format is asked for by a short name.  The name is read without surrounding
blanks, without regard to the case of its letters and without leading dots, so
a file extension is a name as well.
-/
import Darkroom.Fault
import Darkroom.Text.Blank

namespace Darkroom

set_option autoImplicit false

inductive Format
  | jpeg | png | gif | tiff | bmp
  deriving DecidableEq, Inhabited, Repr

namespace Format

def all : List Format := [.jpeg, .png, .gif, .tiff, .bmp]

/-- The name a file header is known by. -/
def tag : Format → String
  | .jpeg => "JPEG"
  | .png => "PNG"
  | .gif => "GIF"
  | .tiff => "TIFF"
  | .bmp => "BMP"

/-- The extension a file of the format gets. -/
def extension : Format → String
  | .jpeg => ".jpg"
  | .png => ".png"
  | .gif => ".gif"
  | .tiff => ".tiff"
  | .bmp => ".bmp"

/-- The names a format goes by, in small letters. -/
def names : Format → List String
  | .jpeg => ["jpeg", "jpg"]
  | .png => ["png"]
  | .gif => ["gif"]
  | .tiff => ["tiff", "tif"]
  | .bmp => ["bmp"]

/-- What is compared with the names: no blanks around it, small letters, no
dots in front.  Only the letters A to Z matter, since no other character has a
small letter of a format name. -/
def nameKey (name : String) : String :=
  String.ofList (((Text.strip name.toList).map Char.toLower).dropWhile (· == '.'))

/-- The format that a key names. -/
def ofKey? (key : String) : Option Format :=
  all.find? fun f => f.names.contains key

/-- The format that a value names. -/
def ofName (given : Value) : Outcome Format :=
  match ofKey? (nameKey given.plain) with
  | some f => .ok f
  | none => .error (.unsupportedFormat given)

/-- The format of the tag that a file is recognised by. -/
def ofTag (given : Value) : Outcome Format :=
  match given with
  | .nothing => .error (.unsupportedFormat given)
  | given => ofName given

end Format

end Darkroom
