/-
# Darkroom.Text.Whole -- whole numbers as text

A whole number is digits of any script, with at most one underscore between two
digits and a sign in front, and with blanks around it.  A text of more than
4300 digits is refused.
-/
import Darkroom.Text.Blank
import Darkroom.Text.Digit

namespace Darkroom.Text

set_option autoImplicit false

/-- The most digits that are read. -/
def mostDigits : Nat := 4300

/-- The values of digits that begin with a digit and have at most one
underscore between any two. -/
def digitValues? : List Char → Option (List Nat)
  | [] => none
  | [c] => (decimalDigit? c).map ([·])
  | c :: '_' :: rest => do return (← decimalDigit? c) :: (← digitValues? rest)
  | c :: rest => do return (← decimalDigit? c) :: (← digitValues? rest)

def natOfDigits (digits : List Nat) : Nat := digits.foldl (fun n d => 10 * n + d) 0

/-- The number of a run of digits. -/
def natural? (cs : List Char) : Option Nat :=
  match digitValues? cs with
  | some digits => if digits.length ≤ mostDigits then some (natOfDigits digits) else none
  | none => none

/-- The number that a text writes. -/
def whole? (s : String) : Option Int :=
  match strip s.toList with
  | '-' :: cs => (natural? cs).map fun n => -(n : Int)
  | '+' :: cs => (natural? cs).map fun n => (n : Int)
  | cs => (natural? cs).map fun n => (n : Int)

end Darkroom.Text
