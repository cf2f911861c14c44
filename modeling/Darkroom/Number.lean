/-
# Darkroom.Number -- the numbers an option may hold

A number is a whole number of any size or a double.  Whole numbers divide into
the double nearest to the exact fraction, and the two kinds compare by their
exact values.  Arithmetic fails in two ways: dividing by zero, and turning a
whole number or a quotient into a double that would lie beyond the finite range.
-/
import Darkroom.Number.Double

namespace Darkroom

set_option autoImplicit false

inductive ArithmeticError
  | divisionByZero
  | overflow
  deriving DecidableEq, Repr

inductive Number
  | int (n : Int)
  | real (x : Double)
  deriving DecidableEq, Inhabited

namespace Number

/-- The exact value of a number that has one. -/
def toRat? : Number → Option Rat
  | .int n => some (n : Rat)
  | .real x => x.toRat?

def isNan : Number → Bool
  | .real .nan => true
  | _ => false

/-- Strict order by exact value. -/
def lt (a b : Number) : Bool :=
  match a, b with
  | .int m, .int n => decide (m < n)
  | .real x, .real y => x.lt y
  | .int m, .real y => match y with
    | .nan => false
    | .infinite negative => !negative
    | y => decide ((m : Rat) < y.toRat?.getD 0)
  | .real x, .int n => match x with
    | .nan => false
    | .infinite negative => negative
    | x => decide (x.toRat?.getD 0 < (n : Rat))

def le (a b : Number) : Bool :=
  !a.isNan && !b.isNan && !lt b a

/-- Equal by exact value. -/
def same (a b : Number) : Bool := le a b && le b a

/-- The nearest double of a fraction, unless it lies beyond the finite range; a
zero gets the sign given with it. -/
def finiteDouble (negative : Bool) (q : Rat) : Except ArithmeticError Double :=
  match Double.ofExact negative q with
  | .infinite _ => .error .overflow
  | x => .ok x

def toDouble : Number → Except ArithmeticError Double
  | .int n => finiteDouble (decide (n < 0)) (n : Rat)
  | .real x => .ok x

def mul (a b : Number) : Except ArithmeticError Number :=
  match a, b with
  | .int m, .int n => .ok (.int (m * n))
  | a, b => do return .real ((← a.toDouble).mul (← b.toDouble))

def div (a b : Number) : Except ArithmeticError Double :=
  match a, b with
  | .int m, .int n =>
      if n = 0 then .error .divisionByZero
      else finiteDouble (decide (m < 0) != decide (n < 0)) ((m : Rat) / (n : Rat))
  | a, b => do
      match (← a.toDouble).div? (← b.toDouble) with
      | some q => .ok q
      | none => .error .divisionByZero

/-- The largest whole number that is not above the double. -/
def floor (x : Double) : Except ArithmeticError Int :=
  match x.toRat? with
  | some q => .ok q.floor
  | none => .error .overflow

/-- The whole number towards zero. -/
def truncate (x : Double) : Except ArithmeticError Int :=
  match x.toRat? with
  | some q => .ok (if q < 0 then -(-q).floor else q.floor)
  | none => .error .overflow

/-- Half of a number rounded down; a double stays a double. -/
def half : Number → Except ArithmeticError Number
  | .int n => .ok (.int (n.fdiv 2))
  | .real x => match x.toRat? with
    | some q => .ok (.real (Double.ofExact x.isNegative ((q / 2).floor : Rat)))
    | none => .ok (.real .nan)

def sub (a b : Number) : Except ArithmeticError Number :=
  match a, b with
  | .int m, .int n => .ok (.int (m - n))
  | a, b => do return .real ((← a.toDouble).sub (← b.toDouble))

end Number

end Darkroom
