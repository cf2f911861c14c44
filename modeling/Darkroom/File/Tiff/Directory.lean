/-
# Darkroom.File.Tiff.Directory -- the fields of a TIFF file

A TIFF file says first which byte of a number comes first.  Then follow
directories, each with the place of the next one.  A directory is a run of
fields of twelve bytes: a tag, a kind, a count, and the values, or their place
when they take more than four bytes.

A directory that is cut has the fields up to there, and none comes after it.
-/
import Darkroom.File.Bytes

namespace Darkroom.Tiff

set_option autoImplicit false

structure Field where
  tag : Nat
  /-- The values, when they are whole numbers. -/
  numbers : Option (List Nat)
  deriving Inhabited

structure Directory where
  fields : List Field
  /-- Where the next directory stands; zero behind the last. -/
  next : Nat
  deriving Inhabited

/-- The bytes that a value of a kind takes. -/
def valueSize? : Nat → Option Nat
  | 1 | 2 | 6 | 7 => some 1
  | 3 | 8 => some 2
  | 4 | 9 | 11 | 13 => some 4
  | 5 | 10 | 12 | 16 => some 8
  | _ => none

/-- What comes of twelve bytes. -/
inductive Reading
  | field (f : Field)
  /-- The field has no values, or values of no known kind. -/
  | nothing
  /-- The file ends too early. -/
  | cut

/-- The field at a position. -/
def readField (data : Bytes) (order : Bytes.Order) (position : Nat) : Reading :=
  let number := fun start count => data.number? order start count
  match number position 2, number (position + 2) 2, number (position + 4) 4,
      number (position + 8) 4 with
  | some tag, some kind, some count, some place =>
      match valueSize? kind with
      | none => .nothing
      | some size =>
          let start := if 4 < count * size then place else position + 8
          if count = 0 then .nothing
          else if data.size < start + count * size then .cut
          else if kind = 3 || kind = 4 then
            .field ⟨tag, some ((List.range count).filterMap fun i => number (start + i * size) size)⟩
          else .field ⟨tag, none⟩
  | _, _, _, _ => .cut

/-- So many fields from a position on, the last one first, and whether the file
ended among them. -/
def readFields (data : Bytes) (order : Bytes.Order) : Nat → Nat → List Field → List Field × Bool
  | 0, _, done => (done, false)
  | count + 1, position, done => match readField data order position with
    | .cut => (done, true)
    | .nothing => readFields data order count (position + 12) done
    | .field f => readFields data order count (position + 12) (f :: done)

namespace Directory

/-- The directory at a position. -/
def read (data : Bytes) (order : Bytes.Order) (position : Nat) : Directory :=
  match data.number? order position 2 with
  | none => ⟨[], 0⟩
  | some count =>
      let (fields, isCut) := readFields data order count (position + 2) []
      let next := (data.number? order (position + 2 + 12 * count) 4).getD 0
      ⟨fields, if isCut then 0 else next⟩

/-- The values of a tag: nothing when it is not there, and no numbers when they
are of another kind.  The last field of a tag counts. -/
def values? (d : Directory) (tag : Nat) : Option (Option (List Nat)) :=
  (d.fields.find? fun f => f.tag = tag).map (·.numbers)

/-- The numbers of a tag, or what stands for them when it is not there. -/
def numbers (d : Directory) (tag : Nat) (standard : List Nat) : Option (List Nat) :=
  (d.values? tag).getD (some standard)

/-- The first number of a tag, or what stands for it when it is not there. -/
def number (d : Directory) (tag standard : Nat) : Option Nat :=
  (d.numbers tag [standard]).bind List.head?

end Directory

/-- Which byte of a number comes first in a file. -/
def order? (data : Bytes) : Option Bytes.Order :=
  if data.startsWith [0x49, 0x49, 0x2A, 0] || data.startsWith [0x49, 0x49, 0, 0x2A] then
    some .lowFirst
  else if data.startsWith [0x4D, 0x4D, 0, 0x2A] || data.startsWith [0x4D, 0x4D, 0x2A, 0] then
    some .highFirst
  else none

/-- The directories from a position on.  One that stood before ends the run;
`fuel` is at least the number of bytes. -/
def directoriesFrom (data : Bytes) (order : Bytes.Order) : Nat → Nat → List Nat → List Directory
  | 0, _, _ => []
  | fuel + 1, position, seen =>
      if position = 0 || seen.contains position then []
      else
        let d := Directory.read data order position
        d :: directoriesFrom data order fuel d.next (position :: seen)

end Darkroom.Tiff
