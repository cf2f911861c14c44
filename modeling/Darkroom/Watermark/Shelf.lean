/-
# Darkroom.Watermark.Shelf -- marks from files

A pair of marks is loaded from two files of any picture format.  The pair of
the standard files is kept on the shelf once it has been loaded, and answered
from there until the shelf is cleared, whatever becomes of the files.  A failed
load leaves the shelf as it was.

Every pair that is loaded or handed in gets a serial number, so two holdings
are one and the same pair exactly when their numbers agree.
-/
import Darkroom.Disk
import Darkroom.Watermark

namespace Darkroom

set_option autoImplicit false

/-- A pair of marks with the number of its making. -/
structure Holding where
  marks : Marks
  serial : Nat

structure Shelf where
  /-- The pair of the standard files. -/
  kept : Option Holding := none
  /-- How many pairs have been made. -/
  made : Nat := 0

namespace Mark

/-- What is said of damage to the file of a mark.  Only pixels that cannot be read
are known as such. -/
def damageFault (path : Path) : Damage → Fault :=
  Damage.toldAs [.pixels] (.assetUndecodable path.text)

/-- The mark in a file. -/
def load (look : Lookup) (path : Path) : Outcome Mark :=
  match look path with
  | .error r => match r.obstacle with
    | .missing => .error (.assetMissing path.text)
    | .nullCharacter => .error .nullInPath
    | _ => .error (.assetUndecodable path.text)
  | .ok content => match content.recognised with
    | none => .error (.assetUndecodable path.text)
    | some (.error d) => .error (damageFault path d)
    | some (.ok c) => match c.frames with
      | first :: _ => Mark.ofRaster first.picture
      | [] => .error (damageFault path (c.damage.getD .pixels))

end Mark

namespace Marks

def plainPath : String := "watermark.png"

def coloredPath : String := "watermark_colored.png"

/-- The marks in two files. -/
def load (look : Lookup) (plain colored : String) : Logged Marks := do
  let marks : Marks := ⟨← Mark.load look (.ofText plain), ← Mark.load look (.ofText colored)⟩
  Logged.note (.marksLoaded plain colored)
  return marks

end Marks

namespace Shelf

/-- Hand in a pair. -/
def adopt (s : Shelf) (marks : Marks) : Holding × Shelf :=
  (⟨marks, s.made⟩, { s with made := s.made + 1 })

/-- Load a pair. -/
def load (s : Shelf) (look : Lookup) (plain colored : String) : Logged (Holding × Shelf) := do
  return s.adopt (← Marks.load look plain colored)

/-- The pair of the standard files, from the shelf if it is there. -/
def standard (s : Shelf) (look : Lookup) : Logged (Holding × Shelf) :=
  match s.kept with
  | some h => return (h, s)
  | none => do
      let (h, s) ← s.load look Marks.plainPath Marks.coloredPath
      return (h, { s with kept := some h })

/-- Forget the pair of the standard files. -/
def clear (s : Shelf) : Shelf := { s with kept := none }

end Shelf

end Darkroom
