/-
# Darkroom.File.Png.Chunk -- the parts of a PNG file

A PNG file is a mark of eight bytes and a run of chunks.  A chunk says how many
bytes it holds, has a name of four letters, and ends with a check sum over its
name and its bytes.

The chunks in front of the picture are checked, byte by byte.  Behind the
picture it is enough that the bytes of a chunk are there, and the run may end
anywhere between two chunks.
-/
import Darkroom.File.Bytes
import Darkroom.File.Checksum

namespace Darkroom.Png

set_option autoImplicit false

/-- The first bytes of a PNG file. -/
def mark : List UInt8 := [0x89, 0x50, 0x4E, 0x47, 0x0D, 0x0A, 0x1A, 0x0A]

structure Chunk where
  name : Bytes
  /-- Where the bytes of the chunk start. -/
  start : Nat
  length : Nat

namespace Chunk

/-- Letters, digits and the low line may stand in a name. -/
def isNameByte (b : UInt8) : Bool :=
  (48 ≤ b && b ≤ 57) || (65 ≤ b && b ≤ 90) || b == 95 || (97 ≤ b && b ≤ 122)

/-- The chunk at a position, when a length and a name are there. -/
def at? (data : Bytes) (position : Nat) : Option Chunk := do
  let length ← data.high32? position
  let name := data.slice (position + 4) 4
  if name.size = 4 && name.all isNameByte then some ⟨name, position + 8, length⟩ else none

def isNamed (c : Chunk) (name : String) : Bool := c.name.toList = Bytes.ofAscii name

/-- The bytes of a chunk, as many as are there. -/
def bytes (data : Bytes) (c : Chunk) : Bytes := data.slice c.start c.length

/-- The file does not end inside the chunk. -/
def isWhole (data : Bytes) (c : Chunk) : Bool := c.start + c.length ≤ data.size

/-- The chunk has the check sum that it says. -/
def isSound (data : Bytes) (c : Chunk) : Bool :=
  data.high32? (c.start + c.length)
    = some (Checksum.crc32 (data.extract (c.start - 4) (c.start + c.length))).toNat

/-- Where the next chunk starts. -/
def next (c : Chunk) : Nat := c.start + c.length + 4

/-- The chunks from a position on, as far as there are any; `fuel` is at least
the number of bytes. -/
def run (data : Bytes) : Nat → Nat → List Chunk
  | 0, _ => []
  | fuel + 1, position => match at? data position with
    | none => []
    | some c => c :: run data fuel c.next

/-- All chunks behind the mark. -/
def all (data : Bytes) : List Chunk := run data data.size 8

end Chunk

end Darkroom.Png
