/-
# Darkroom.Number.Double -- binary64 arithmetic on exact fractions

A `Double` is a binary64 value: a finite one is carried as the fraction it
stands for, so comparing and adding are statements about fractions, and every
operation is the exact result rounded once by `nearest`.  The zero below zero,
the two infinities and the result that is not a number have constructors of
their own because texts tell them apart.
-/
import Darkroom.Number.Rounding

namespace Darkroom

set_option autoImplicit false

inductive Double
  | finite (value : Rat)
  | negZero
  | infinite (negative : Bool)
  | nan
  deriving DecidableEq, Inhabited

namespace Double

/-- The exact value of a finite double. -/
def toRat? : Double → Option Rat
  | .finite q => some q
  | .negZero => some 0
  | _ => none

/-- Below zero, counting the zero that is below zero. -/
def isNegative : Double → Bool
  | .finite q => decide (q < 0)
  | .negZero => true
  | .infinite negative => negative
  | .nan => false

def isZero : Double → Bool
  | .finite q => q == 0
  | .negZero => true
  | _ => false

/-- Round an exact result.  A result that rounds to zero keeps the sign given
with it, and one beyond the finite range becomes an infinity. -/
def ofExact (negative : Bool) (q : Rat) : Double :=
  let r := Number.nearest q
  if r = 0 then if negative then .negZero else .finite 0
  else if Number.overflows r then .infinite (decide (r < 0))
  else .finite r

/-- The double nearest to a fraction. -/
def ofRat (q : Rat) : Double :=
  ofExact (decide (q < 0)) q

def neg : Double → Double
  | .finite q => if q = 0 then .negZero else .finite (-q)
  | .negZero => .finite 0
  | .infinite negative => .infinite (!negative)
  | .nan => .nan

def add (x y : Double) : Double :=
  match x, y with
  | .nan, _ => .nan
  | _, .nan => .nan
  | .infinite s, .infinite t => if s = t then .infinite s else .nan
  | .infinite s, _ => .infinite s
  | _, .infinite t => .infinite t
  | .negZero, .negZero => .negZero
  | x, y =>
      let q := (x.toRat?.getD 0) + (y.toRat?.getD 0)
      ofExact (decide (q < 0)) q

def sub (x y : Double) : Double := add x y.neg

def mul (x y : Double) : Double :=
  let negative := x.isNegative != y.isNegative
  match x.toRat?, y.toRat? with
  | some a, some b => ofExact negative (a * b)
  | _, _ =>
      if x = .nan ∨ y = .nan ∨ x.isZero ∨ y.isZero then .nan
      else .infinite negative

/-- The quotient; a zero divisor gives `none`. -/
def div? (x y : Double) : Option Double :=
  let negative := x.isNegative != y.isNegative
  if y.isZero then none
  else match x.toRat?, y.toRat? with
    | some a, some b => some (ofExact negative (a / b))
    | some _, none => if y = .nan then some .nan else some (if negative then .negZero else .finite 0)
    | none, some _ => if x = .nan then some .nan else some (.infinite negative)
    | none, none => some .nan

/-- Strict order; nothing is below or above what is not a number. -/
def lt (x y : Double) : Bool :=
  match x, y with
  | .nan, _ => false
  | _, .nan => false
  | .infinite s, .infinite t => s && !t
  | .infinite s, _ => s
  | _, .infinite t => !t
  | x, y => decide (x.toRat?.getD 0 < y.toRat?.getD 0)

def le (x y : Double) : Bool :=
  match x, y with
  | .nan, _ => false
  | _, .nan => false
  | x, y => !lt y x

/-- Equal as numbers: the two zeros are equal. -/
def same (x y : Double) : Bool :=
  le x y && le y x

/-! ## The stored form -/

private def quietNan : UInt64 := 0x7ff8000000000000

/-- The bit before the point of a significand, which is not stored. -/
private def hiddenBit : Nat := 0x10000000000000

private def signBit : Nat := 0x8000000000000000

/-- The 64 bits that store the value. -/
def toBits (x : Double) : UInt64 :=
  match x with
  | .nan => quietNan
  | .negZero => 0x8000000000000000
  | .infinite negative => if negative then 0xfff0000000000000 else 0x7ff0000000000000
  | .finite q =>
      if q = 0 then 0
      else
        let n := q.num.natAbs
        let u := Number.unitExponent n q.den
        let m := Number.unitCount n q.den
        let field := if m < hiddenBit then m else (u + 1075).toNat * hiddenBit + (m - hiddenBit)
        UInt64.ofNat (if q < 0 then signBit + field else field)

/-- The value that 64 bits store. -/
def ofBits (bits : UInt64) : Double :=
  let b := bits.toNat
  let negative := decide (signBit ≤ b)
  let field := b % signBit
  let exponent := field / hiddenBit
  let fraction := field % hiddenBit
  if exponent = 2047 then if fraction = 0 then .infinite negative else .nan
  else
    let m := if exponent = 0 then fraction else fraction + hiddenBit
    let q := Number.scaled m (((max exponent 1 : Nat) : Int) - 1075)
    if q = 0 then if negative then .negZero else .finite 0
    else .finite (if negative then -q else q)

def toFloat (x : Double) : Float := Float.ofBits x.toBits

def ofFloat (x : Float) : Double := ofBits x.toBits

end Double

end Darkroom
