/-
# Darkroom.File.Samples -- pixels packed in rows of bytes

The samples of a row follow one another without gaps.  Samples of less than a
byte share bytes, the leftmost in the high bits; samples of 16 bits take two.
A sample of few bits is spread over the range of a byte.
-/
import Darkroom.Container
import Darkroom.File.Bytes

namespace Darkroom

set_option autoImplicit false

namespace Samples

/-- The bytes that `count` samples of `bits` bits take. -/
def bytesFor (count bits : Nat) : Nat := (count * bits + 7) / 8

/-- Sample number `i` of the row at `start` whose samples have 1, 2, 4 or 8 bits. -/
def smallFrom (data : Bytes) (start bits i : Nat) : Nat :=
  data.at0 (start + i * bits / 8) >>> (8 - bits - i * bits % 8) % Nat.pow 2 bits

/-- Sample number `i` of a row whose samples have 1, 2, 4 or 8 bits. -/
def small (row : Bytes) (bits i : Nat) : Nat := smallFrom row 0 bits i

/-- A sample of 1, 2, 4 or 8 bits as a gray. -/
def spread (bits sample : Nat) : UInt8 := UInt8.ofNat (sample * (255 / (Nat.pow 2 bits - 1)))

end Samples

end Darkroom
