/-
# Darkroom.Color.Rgb -- 24-bit colours and their hexadecimal text

A colour is three bytes.  Its text is `#` and six small hexadecimal digits; a
text is read as one hexadecimal number of at most 24 bits, so leading zeros
count for nothing and a short text is a blue.
-/
import Darkroom.Fault

namespace Darkroom

set_option autoImplicit false

structure Rgb where
  red : UInt8
  green : UInt8
  blue : UInt8
  deriving DecidableEq, Inhabited, Repr

/-- The value of a hexadecimal digit of either case. -/
def Text.hexDigit? (c : Char) : Option Nat :=
  if '0' ≤ c ∧ c ≤ '9' then some (c.toNat - '0'.toNat)
  else if 'a' ≤ c ∧ c ≤ 'f' then some (c.toNat - 'a'.toNat + 10)
  else if 'A' ≤ c ∧ c ≤ 'F' then some (c.toNat - 'A'.toNat + 10)
  else none

/-- The number that hexadecimal digits write, most significant digit first. -/
def Text.hexNumber? (cs : List Char) : Option Nat :=
  cs.foldlM (fun n c => (Text.hexDigit? c).map (16 * n + ·)) 0

namespace Rgb

/-- The colour of a 24-bit number: red in the high byte, blue in the low one. -/
def ofNat (n : Nat) : Rgb :=
  ⟨UInt8.ofNat (n / 65536), UInt8.ofNat (n / 256), UInt8.ofNat n⟩

/-- Six small hexadecimal digits. -/
def hexChars (c : Rgb) : List Char :=
  Text.hexDigits 2 c.red.toNat ++ Text.hexDigits 2 c.green.toNat ++ Text.hexDigits 2 c.blue.toNat

/-- The colour as `#` and six hexadecimal digits. -/
def hex (c : Rgb) : String := String.ofList ('#' :: c.hexChars)

/-- The digits of a colour text: all of it, less one leading `#`. -/
def hexBody : List Char → List Char
  | '#' :: rest => rest
  | cs => cs

/-- Read a colour text; the refusal quotes the text as given. -/
def ofHexText (s : String) : Outcome Rgb :=
  let digits := hexBody s.toList
  match digits, Text.hexNumber? digits with
  | [], _ => .error (.invalidHex (.text s) .notHexadecimal)
  | _, none => .error (.invalidHex (.text s) .notHexadecimal)
  | _, some n =>
      if n ≤ 0xFFFFFF then .ok (ofNat n) else .error (.invalidHex (.text s) .tooLarge)

/-- Read a colour from an unchecked value, which has to be a text. -/
def ofHex (given : Value) : Outcome Rgb :=
  match given with
  | .text s => ofHexText s
  | given => .error (.invalidHex given .notText)

end Rgb

end Darkroom
