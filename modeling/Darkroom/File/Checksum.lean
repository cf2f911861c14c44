/-
# Darkroom.File.Checksum -- the two check sums of picture files

`crc32` is the cyclic sum over the polynomial 0xEDB88320, bytes taken low bit
first; `adler32` is the pair of running sums modulo 65521.
-/

namespace Darkroom.Checksum

set_option autoImplicit false

/-- One bit of the cyclic sum. -/
def crcBit (c : UInt32) : UInt32 :=
  if c &&& 1 = 1 then (c >>> 1) ^^^ 0xEDB88320 else c >>> 1

/-- The sum of one byte, eight bits on. -/
def crcEntry (n : UInt32) : UInt32 :=
  crcBit (crcBit (crcBit (crcBit (crcBit (crcBit (crcBit (crcBit n)))))))

def crcTable : Array UInt32 := Array.ofFn (n := 256) fun i => crcEntry (UInt32.ofNat i.val)

def crcByte (c : UInt32) (b : UInt8) : UInt32 :=
  crcTable.getD ((c ^^^ b.toUInt32) &&& 0xFF).toNat 0 ^^^ (c >>> 8)

/-- The cyclic sum of a run of bytes. -/
def crc32 (bytes : Array UInt8) : UInt32 :=
  bytes.foldl crcByte 0xFFFFFFFF ^^^ 0xFFFFFFFF

/-- The running sums of a run of bytes. -/
def adler32 (bytes : Array UInt8) : UInt32 :=
  let (a, b) := bytes.foldl (fun (a, b) x =>
    let a := (a + x.toNat) % 65521
    (a, (b + a) % 65521)) (1, 0)
  UInt32.ofNat (b * 65536 + a)

end Darkroom.Checksum
