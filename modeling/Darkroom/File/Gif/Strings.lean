/-
# Darkroom.File.Gif.Strings -- indices packed as codes for strings

A code stands for a string of indices.  The first codes stand for one index
each, two more say that the codes start anew and that they end, and with every
further code one more string is known: the string before, with the first index
of this one.  Codes have as many bits as the strings need that are known then,
and at most twelve.
-/
import Darkroom.File.Bytes
import Darkroom.File.PrefixCode

namespace Darkroom.Gif

set_option autoImplicit false

/-- How many strings are known at most. -/
def mostStrings : Nat := 4096

/-- The bits of a code at most. -/
def mostBits : Nat := 12

/-- The strings that are known from the start: one index each, and two that are
never looked at. -/
def firstStrings (bits : Nat) : Array Bytes :=
  Array.ofFn (n := Nat.pow 2 bits + 2) fun i => #[UInt8.ofNat i.val]

/-- What is known while codes are read. -/
structure Strings where
  known : Array Bytes
  /-- The bits of a code. -/
  width : Nat
  /-- The string of the code before, when there was one. -/
  last : Option Bytes

namespace Strings

def start (bits : Nat) : Strings := ⟨firstStrings bits, bits + 1, none⟩

/-- The string of a code.  The code that comes next may be used already: its
string can be told. -/
def string? (s : Strings) (clear code : Nat) : Option Bytes :=
  match s.last with
  | none => if code < clear then s.known[code]? else none
  | some last =>
      if code = s.known.size then some (last.push (last.getD 0 0)) else s.known[code]?

/-- What is known after a string. -/
def after (s : Strings) (string : Bytes) : Strings :=
  match s.last with
  | none => { s with last := some string }
  | some last =>
      if s.known.size < mostStrings then
        let known := s.known.push (last.push (string.getD 0 0))
        let width := if known.size = Nat.pow 2 s.width && s.width < mostBits then s.width + 1 else s.width
        ⟨known, width, some string⟩
      else { s with last := some string }

end Strings

/-- Unpack codes to at least `need` indices; `fuel` is more than the number of
bits. -/
def unpackFrom (data : Bytes) (bits need : Nat) : Nat → (position : Nat) → Bytes → Strings →
    Except Flaw Bytes
  | 0, _, _, _ => .error .cut
  | fuel + 1, position, out, strings =>
      if need ≤ out.size then .ok out
      else match data.lowBits? position strings.width with
        | none => .error .cut
        | some code =>
            let position := position + strings.width
            if code = Nat.pow 2 bits then unpackFrom data bits need fuel position out (.start bits)
            else if code = Nat.pow 2 bits + 1 then .error .cut
            else match strings.string? (Nat.pow 2 bits) code with
              | none => .error .broken
              | some string =>
                  unpackFrom data bits need fuel position (out ++ string) (strings.after string)

/-- Unpack codes; `bits` is the number of bits of an index. -/
def unpack (data : Bytes) (bits need : Nat) : Except Flaw Bytes :=
  if mostBits < bits then .error .broken
  else unpackFrom data bits need (8 * data.size + 1) 0 #[] (.start bits)

end Darkroom.Gif
