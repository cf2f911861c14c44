/-
# Darkroom.File.Jpeg.Write -- writing JPEG files

A picture is written as one scan of groups: four blocks of brightness, two by
two, and one block of each colour, in the standard prefix codes.
-/
import Darkroom.File.Jpeg.Plane
import Darkroom.File.Jpeg.Scan

namespace Darkroom.Jpeg

set_option autoImplicit false

/-! ## The standard codes -/

def firstSymbols : Array Nat := #[0, 1, 2, 3, 4, 5, 6, 7, 8, 9, 10, 11]

def brightFirst : PrefixCode := ⟨[0, 1, 5, 1, 1, 1, 1, 1, 1, 0, 0, 0, 0, 0, 0, 0], firstSymbols⟩

def colorFirst : PrefixCode := ⟨[0, 3, 1, 1, 1, 1, 1, 1, 1, 1, 1, 0, 0, 0, 0, 0], firstSymbols⟩

def brightOthers : PrefixCode := ⟨[0, 2, 1, 3, 3, 2, 4, 3, 5, 5, 4, 4, 0, 0, 1, 125], #[
  0x01, 0x02, 0x03, 0x00, 0x04, 0x11, 0x05, 0x12, 0x21, 0x31, 0x41, 0x06, 0x13, 0x51, 0x61, 0x07,
  0x22, 0x71, 0x14, 0x32, 0x81, 0x91, 0xA1, 0x08, 0x23, 0x42, 0xB1, 0xC1, 0x15, 0x52, 0xD1, 0xF0,
  0x24, 0x33, 0x62, 0x72, 0x82, 0x09, 0x0A, 0x16, 0x17, 0x18, 0x19, 0x1A, 0x25, 0x26, 0x27, 0x28,
  0x29, 0x2A, 0x34, 0x35, 0x36, 0x37, 0x38, 0x39, 0x3A, 0x43, 0x44, 0x45, 0x46, 0x47, 0x48, 0x49,
  0x4A, 0x53, 0x54, 0x55, 0x56, 0x57, 0x58, 0x59, 0x5A, 0x63, 0x64, 0x65, 0x66, 0x67, 0x68, 0x69,
  0x6A, 0x73, 0x74, 0x75, 0x76, 0x77, 0x78, 0x79, 0x7A, 0x83, 0x84, 0x85, 0x86, 0x87, 0x88, 0x89,
  0x8A, 0x92, 0x93, 0x94, 0x95, 0x96, 0x97, 0x98, 0x99, 0x9A, 0xA2, 0xA3, 0xA4, 0xA5, 0xA6, 0xA7,
  0xA8, 0xA9, 0xAA, 0xB2, 0xB3, 0xB4, 0xB5, 0xB6, 0xB7, 0xB8, 0xB9, 0xBA, 0xC2, 0xC3, 0xC4, 0xC5,
  0xC6, 0xC7, 0xC8, 0xC9, 0xCA, 0xD2, 0xD3, 0xD4, 0xD5, 0xD6, 0xD7, 0xD8, 0xD9, 0xDA, 0xE1, 0xE2,
  0xE3, 0xE4, 0xE5, 0xE6, 0xE7, 0xE8, 0xE9, 0xEA, 0xF1, 0xF2, 0xF3, 0xF4, 0xF5, 0xF6, 0xF7, 0xF8,
  0xF9, 0xFA]⟩

def colorOthers : PrefixCode := ⟨[0, 2, 1, 2, 4, 4, 3, 4, 7, 5, 4, 4, 0, 1, 2, 119], #[
  0x00, 0x01, 0x02, 0x03, 0x11, 0x04, 0x05, 0x21, 0x31, 0x06, 0x12, 0x41, 0x51, 0x07, 0x61, 0x71,
  0x13, 0x22, 0x32, 0x81, 0x08, 0x14, 0x42, 0x91, 0xA1, 0xB1, 0xC1, 0x09, 0x23, 0x33, 0x52, 0xF0,
  0x15, 0x62, 0x72, 0xD1, 0x0A, 0x16, 0x24, 0x34, 0xE1, 0x25, 0xF1, 0x17, 0x18, 0x19, 0x1A, 0x26,
  0x27, 0x28, 0x29, 0x2A, 0x35, 0x36, 0x37, 0x38, 0x39, 0x3A, 0x43, 0x44, 0x45, 0x46, 0x47, 0x48,
  0x49, 0x4A, 0x53, 0x54, 0x55, 0x56, 0x57, 0x58, 0x59, 0x5A, 0x63, 0x64, 0x65, 0x66, 0x67, 0x68,
  0x69, 0x6A, 0x73, 0x74, 0x75, 0x76, 0x77, 0x78, 0x79, 0x7A, 0x82, 0x83, 0x84, 0x85, 0x86, 0x87,
  0x88, 0x89, 0x8A, 0x92, 0x93, 0x94, 0x95, 0x96, 0x97, 0x98, 0x99, 0x9A, 0xA2, 0xA3, 0xA4, 0xA5,
  0xA6, 0xA7, 0xA8, 0xA9, 0xAA, 0xB2, 0xB3, 0xB4, 0xB5, 0xB6, 0xB7, 0xB8, 0xB9, 0xBA, 0xC2, 0xC3,
  0xC4, 0xC5, 0xC6, 0xC7, 0xC8, 0xC9, 0xCA, 0xD2, 0xD3, 0xD4, 0xD5, 0xD6, 0xD7, 0xD8, 0xD9, 0xDA,
  0xE2, 0xE3, 0xE4, 0xE5, 0xE6, 0xE7, 0xE8, 0xE9, 0xEA, 0xF2, 0xF3, 0xF4, 0xF5, 0xF6, 0xF7, 0xF8,
  0xF9, 0xFA]⟩

/-! ## Codes of a block -/

/-- A number of so many bits, high bit first. -/
structure Code where
  length : Nat
  value : Nat
  deriving Inhabited

/-- The codes of the symbols of a prefix code. -/
def codeTable (c : PrefixCode) : Array Code :=
  let lengths := c.counts.zipIdx.flatMap fun (count, i) => List.replicate count (i + 1)
  let step := fun (state : Nat × Nat × Array Code) (entry : Nat × Nat) =>
    let (next, before, table) := state
    let (length, symbol) := entry
    let value := next * Nat.pow 2 (length - before)
    (value + 1, length, table.setIfInBounds symbol ⟨length, value⟩)
  ((lengths.zip c.symbols.toList).foldl step (0, 0, Array.replicate 256 default)).2.2

/-- The codes of one plane. -/
structure CodeTables where
  first : Array Code
  others : Array Code

/-- How many bits a number takes without its sign. -/
def bitLength (n : Int) : Nat := if n = 0 then 0 else n.natAbs.log2 + 1

/-- The bits of a number; a negative one is one less, without its high bit. -/
def numberCode (n : Int) : Code :=
  let length := bitLength n
  ⟨length, (if n < 0 then n + Nat.pow 2 length - 1 else n).toNat⟩

/-- The codes of the numbers of a block behind the first.  Zeros are counted up to
the next other number, and those at the end are left off. -/
def otherCodes (table : Array Code) : (zeros : Nat) → List Int → List Code
  | zeros, [] => if zeros = 0 then [] else [table.getD 0 default]
  | zeros, n :: rest =>
      if n = 0 then otherCodes table (zeros + 1) rest
      else
        List.replicate (zeros / 16) (table.getD 0xF0 default) ++
          table.getD (zeros % 16 * 16 + bitLength n) default :: numberCode n ::
            otherCodes table 0 rest

/-- The codes of a block, given the first number of the block before. -/
def blockCodes (tables : CodeTables) (before : Int) (b : Block) : List Code :=
  let numbers := zigzag.toList.map fun i => b.getD i 0
  match numbers with
  | [] => []
  | first :: others =>
      tables.first.getD (bitLength (first - before)) default :: numberCode (first - before) ::
        otherCodes tables.others 0 others

/-! ## Bytes -/

/-- What has been written, and the bits of the byte at hand. -/
structure Writing where
  out : Bytes
  word : Nat
  count : Nat

/-- A byte of a scan; a byte of 255 is followed by a zero. -/
def stuffed (out : Bytes) (b : UInt8) : Bytes := if b = 255 then (out.push b).push 0 else out.push b

namespace Writing

def add (w : Writing) (c : Code) : Writing :=
  let word := w.word * Nat.pow 2 c.length + c.value
  let count := w.count + c.length
  let bytes := Bytes.ofHigh (count / 8) (word / Nat.pow 2 (count % 8))
  ⟨bytes.foldl stuffed w.out, word % Nat.pow 2 (count % 8), count % 8⟩

/-- The bytes, the last one filled up with ones. -/
def finish (w : Writing) : Bytes :=
  if w.count = 0 then w.out
  else stuffed w.out (UInt8.ofNat ((w.word + 1) * Nat.pow 2 (8 - w.count) - 1))

end Writing

/-- The bytes of the scan. -/
def scanBytes (w : Written) : Bytes :=
  let bright : CodeTables := ⟨codeTable brightFirst, codeTable brightOthers⟩
  let color : CodeTables := ⟨codeTable colorFirst, codeTable colorOthers⟩
  let put := fun (tables : CodeTables) (k : Kept) (state : Writing × Int) (place : Nat) =>
    let block := k.blocks.getD place Block.zero
    ((blockCodes tables state.2 block).foldl Writing.add state.1, block.getD 0 0)
  let across := w.blue.across
  let group := fun (state : Writing × Int × Int × Int) (i : Nat) =>
    let (writing, y, b, r) := state
    let corner := i / across * 2 * w.brightness.across + i % across * 2
    let (writing, y) := [corner, corner + 1, corner + w.brightness.across,
      corner + w.brightness.across + 1].foldl (put bright w.brightness) (writing, y)
    let (writing, b) := put color w.blue (writing, b) i
    let (writing, r) := put color w.red (writing, r) i
    (writing, y, b, r)
  ((List.range w.blue.blocks.size).foldl group (⟨#[], 0, 0⟩, 0, 0, 0)).1.finish

/-- A marked part with its length. -/
def part (mark : UInt8) (bytes : List UInt8) : List UInt8 :=
  [0xFF, mark] ++ Bytes.ofHigh 2 (bytes.length + 2) ++ bytes

/-- A table of codes as it is written. -/
def codeBytes (number : UInt8) (c : PrefixCode) : List UInt8 :=
  number :: (c.counts.map UInt8.ofNat ++ c.symbols.toList.map UInt8.ofNat)

/-- The bytes of a JPEG file. -/
def Written.bytes (w : Written) : Bytes :=
  let steps := fun (number : UInt8) (s : Steps) =>
    number :: zigzag.toList.map fun i => UInt8.ofNat (s.getD i 1)
  let frame := [8] ++ Bytes.ofHigh 2 w.height ++ Bytes.ofHigh 2 w.width ++
    [3, 1, 0x22, 0, 2, 0x11, 1, 3, 0x11, 1]
  let head := [0xFF, 0xD8] ++
    part 0xE0 (Bytes.ofAscii "JFIF" ++ [0, 1, 1, 0, 0, 1, 0, 1, 0, 0]) ++
    part 0xDB (steps 0 w.brightness.steps) ++ part 0xDB (steps 1 w.blue.steps) ++
    part 0xC0 frame ++
    part 0xC4 (codeBytes 0 brightFirst) ++ part 0xC4 (codeBytes 0x10 brightOthers) ++
    part 0xC4 (codeBytes 1 colorFirst) ++ part 0xC4 (codeBytes 0x11 colorOthers) ++
    part 0xDA [3, 1, 0, 2, 0x11, 3, 0x11, 0, 63, 0]
  head.toArray ++ scanBytes w ++ #[0xFF, 0xD9]

end Darkroom.Jpeg
