/-
# Darkroom.File.Deflate -- bytes as deflated data

Bytes are put into stored blocks, each of at most 65535 bytes, between the head
and the check sum that `Inflate.wrapped` takes off again.
-/
import Darkroom.File.Bytes
import Darkroom.File.Checksum

namespace Darkroom.Deflate

set_option autoImplicit false

/-- The most bytes of a stored block. -/
def mostStored : Nat := 65535

/-- A stored block. -/
def block (isLast : Bool) (bytes : Bytes) : Bytes :=
  let head : List UInt8 := (if isLast then 1 else 0) ::
    (Bytes.ofLow 2 bytes.size ++ Bytes.ofLow 2 (65535 - bytes.size))
  head.toArray ++ bytes

/-- Bytes from a position on as stored blocks; `fuel` is more than the number of
full blocks. -/
def blocks (bytes : Bytes) : Nat → Nat → Bytes → Bytes
  | 0, _, done => done
  | fuel + 1, position, done =>
      let part := bytes.slice position mostStored
      let next := position + mostStored
      if bytes.size ≤ next then done ++ block true part
      else blocks bytes fuel next (done ++ block false part)

/-- Deflated data with their head and check sum. -/
def wrapped (bytes : Bytes) : Bytes :=
  blocks bytes (bytes.size / mostStored + 1) 0 #[0x78, 0x01] ++
    Bytes.ofHigh 4 (Checksum.adler32 bytes).toNat

end Darkroom.Deflate
