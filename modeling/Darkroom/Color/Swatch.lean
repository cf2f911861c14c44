/-
# Darkroom.Color.Swatch -- a colour given channel by channel

A swatch is three numbers from 0 to 255 as a caller gave them, checked in the
order red, green, blue.  They need not be whole; a hexadecimal text needs whole
ones.
-/
import Darkroom.Color.Rgb

namespace Darkroom

set_option autoImplicit false

structure Swatch where
  red : Value
  green : Value
  blue : Value

namespace Swatch

/-- Refuse a channel outside 0 to 255. -/
def checkChannel (name : String) (given : Value) : Outcome Unit := do
  let n ← given.toNumber
  if (Number.int 0).le n && n.le (.int 255) then return ()
  else .error (.rejected (.channelRange name given))

/-- Three channels in range; another count of channels is no swatch. -/
def ofChannels : List Value → Outcome Swatch
  | [r, g, b] => do
      checkChannel "red" r
      checkChannel "green" g
      checkChannel "blue" b
      return ⟨r, g, b⟩
  | _ => .error .wrongType

def ofRgb (c : Rgb) : Swatch :=
  ⟨.number (.int c.red.toNat), .number (.int c.green.toNat), .number (.int c.blue.toNat)⟩

def channels (s : Swatch) : List Value := [s.red, s.green, s.blue]

/-- A whole channel as two hexadecimal digits. -/
def channelHex (given : Value) : Outcome (List Char) := do
  match ← given.toNumber with
  | .int n => return Text.hexDigits 2 n.toNat
  | .real _ => .error (.rejected .fractionalHex)

/-- Six hexadecimal digits, for whole channels. -/
def hexChars (s : Swatch) : Outcome (List Char) := do
  return (← channelHex s.red) ++ (← channelHex s.green) ++ (← channelHex s.blue)

end Swatch

end Darkroom
