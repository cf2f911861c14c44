/-
# Darkroom.File.Netpbm -- pictures behind a head in words

The files start with a letter and a digit.  The digit says whether the pixels are
bits, grays or colours, and whether they are written as words or as bytes.  Words
for the width, the height and, but for bits, the largest sample follow.  Blanks
stand between words, and a comment goes up to the end of its line.

Samples are brought to the range of a byte; grays with a larger range keep two.

A file is recognised by its letter and digit.  From there on its head is damaged if a
number is missing or the largest sample is none.
-/
import Darkroom.File.Samples
import Darkroom.Number.Rounding
import Darkroom.Text.Whole

namespace Darkroom.Netpbm

set_option autoImplicit false

inductive Kind
  | bits
  | grays
  | colors
  deriving DecidableEq, Inhabited

structure Head where
  kind : Kind
  /-- The pixels are written as words. -/
  inWords : Bool
  width : Nat
  height : Nat
  /-- The largest sample. -/
  largest : Nat
  /-- Where the pixels start. -/
  start : Nat

/-! ## Words -/

def isBlank (b : UInt8) : Bool := b = 32 || (9 ≤ b && b ≤ 13)

def endsLine (b : UInt8) : Bool := b = 10 || b = 13

/-- The next word and what follows the blank behind it. -/
def word : (inComment : Bool) → List UInt8 → List UInt8 → List UInt8 × List UInt8
  | _, done, [] => (done.reverse, [])
  | true, done, b :: rest => word (!endsLine b) done rest
  | false, done, b :: rest =>
      if b = 35 then word true done rest
      else if isBlank b then if done.isEmpty then word false done rest else (done.reverse, rest)
      else word false (b :: done) rest

/-- The longest word of a head or of samples. -/
def longestWord : Nat := 10

/-- The digits of a word as a number. -/
def digits? (w : List UInt8) : Option Nat := Text.natural? (w.map fun b => Char.ofNat b.toNat)

/-- The number that a word writes. -/
def number? (w : List UInt8) : Option Int :=
  if longestWord < w.length then none
  else match w with
    | 43 :: w => (digits? w).map fun n => (n : Int)
    | 45 :: w => (digits? w).map fun n => -(n : Int)
    | w => (digits? w).map fun n => (n : Int)

/-- The next number and what follows the blank behind it. -/
def nextNumber (bytes : List UInt8) : Except Damage (Int × List UInt8) :=
  let (w, rest) := word false [] bytes
  match number? w with
  | some n => .ok (n, rest)
  | none => .error .misfit

/-- All words. -/
def words : Nat → List UInt8 → List (List UInt8)
  | 0, _ => []
  | fuel + 1, bytes => match word false [] bytes with
    | ([], _) => []
    | (w, rest) => w :: words fuel rest

/-! ## Heads -/

def kindOf? : UInt8 → Option (Kind × Bool)
  | 49 => some (.bits, true)
  | 50 => some (.grays, true)
  | 51 => some (.colors, true)
  | 52 => some (.bits, false)
  | 53 => some (.grays, false)
  | 54 => some (.colors, false)
  | _ => none

/-- The words behind the letter and the digit.  Sides below one are none. -/
def readWords (data : Bytes) (kind : Kind) (inWords : Bool) (rest : List UInt8) :
    Except Damage Head := do
  let (width, rest) ← nextNumber rest
  let (height, rest) ← nextNumber rest
  let (largest, rest) ← if kind = .bits then .ok (1, rest) else nextNumber rest
  if largest ≤ 0 || 65535 < largest then .error .misfit
  else return {
    kind, inWords
    width := width.toNat
    height := height.toNat
    largest := largest.toNat
    start := data.size - rest.length }

/-- The head of a file that is recognised. -/
def readHead (data : Bytes) : Option (Except Damage Head) :=
  match data.toList with
  | 80 :: digit :: rest => do
      let (kind, inWords) ← kindOf? digit
      if (rest.head?.map isBlank).getD true then some (readWords data kind inWords (rest.drop 1))
      else none
  | _ => none

namespace Head

def mode (h : Head) : Mode :=
  match h.kind with
  | .bits => .bilevel
  | .grays => if 255 < h.largest then .int32 else .gray
  | .colors => .rgb

/-- The samples of a pixel. -/
def channels (h : Head) : Nat := if h.kind = .colors then 3 else 1

/-- A sample as it is brought to the range of the mode. -/
def brought (h : Head) (sample : Nat) : Nat :=
  let most := if h.mode = .int32 then 65535 else 255
  let share := Number.nearestRatio sample h.largest
  let value := Number.nearest (share * mkRat (most : Nat) 1)
  min most (Number.roundHalfEven value.num.toNat value.den)

/-- The raster of samples in order. -/
def raster (h : Head) (samples : Nat → Nat) : Raster :=
  Raster.tabulate h.mode h.width h.height fun x y c =>
    let pixel := y * h.width + x
    match h.kind with
    | .bits => if samples pixel = 0 then 255 else 0
    | .grays => UInt8.ofNat (samples pixel >>> (8 * c))
    | .colors => UInt8.ofNat (samples (pixel * 3 + c))

/-- The samples written as words; bits need no blanks between them. -/
def wordSamples (data : Bytes) (h : Head) : Option (Array Nat) := do
  let found := words data.size (data.extract h.start data.size).toList
  match h.kind with
  | .bits =>
      let digits := found.flatten.take (h.width * h.height)
      if digits.all fun b => b = 48 || b = 49 then
        some (digits.map fun b => b.toNat - 48).toArray
      else none
  | _ =>
      let numbers ← (found.take (h.width * h.height * h.channels)).mapM number?
      if numbers.all fun n => 0 ≤ n && n ≤ h.largest then
        some (numbers.map fun n => h.brought n.toNat).toArray
      else none

/-- The picture behind the head. -/
def picture (data : Bytes) (h : Head) : Except Damage Raster :=
  let count := h.width * h.height * h.channels
  if h.inWords then
    match h.wordSamples data with
    | some samples =>
        if samples.size < count then .error .misfit else .ok (h.raster fun i => samples.getD i 0)
    | none => .error .misfit
  else match h.kind with
    | .bits =>
        let rowBytes := Samples.bytesFor h.width 1
        if data.size < h.start + h.height * rowBytes then .error .pixels
        else .ok (h.raster fun i =>
          Samples.smallFrom data (h.start + i / h.width * rowBytes) 1 (i % h.width))
    | _ =>
        let size := if 255 < h.largest then 2 else 1
        if data.size < h.start + count * size then
          .error (if h.largest = 255 || (h.largest = 65535 && h.kind = .grays) then .pixels
            else .misfit)
        else .ok (h.raster fun i =>
          h.brought ((data.number? .highFirst (h.start + i * size) size).getD 0))

end Head

/-- The tag of the files. -/
def tag : String := "PPM"

/-- What is found in a file; nothing when it is no file of this kind. -/
def recognised (data : Bytes) : Recognised := do
  match ← readHead data with
  | .error d => some (.error d)
  | .ok head => Recognised.sized head.width head.height (.ofPicture tag (head.picture data))

end Darkroom.Netpbm
