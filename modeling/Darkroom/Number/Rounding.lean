/-
# Darkroom.Number.Rounding -- the nearest binary64 value of a fraction

Side ratios, derived sides and scores are decided on rounded quotients, so the
rounding is part of the rules of the engine.  It is stated here on exact
fractions: `nearest q` is the multiple of the unit in the last place that is
nearest to `q`, a half going to the even neighbour.  A value keeps 53
significant bits and no bit below `2 ^ (-1074)`; the exponent has no upper
bound here, and `overflows` says which results lie beyond the largest finite
value.
-/

namespace Darkroom.Number

set_option autoImplicit false

/-- The quotient `n / d` rounded to the nearest integer, a half to the even one. -/
def roundHalfEven (n d : Nat) : Nat :=
  let q := n / d
  let r := n % d
  if d < 2 * r ∨ (d = 2 * r ∧ q % 2 = 1) then q + 1 else q

/-- The integer `e` with `2 ^ e ≤ n / d < 2 ^ (e + 1)`, for positive `n` and `d`. -/
def binaryExponent (n d : Nat) : Int :=
  let guess : Int := (n.log2 : Int) - (d.log2 : Int)
  let low := n * Nat.pow 2 (-guess).toNat < d * Nat.pow 2 guess.toNat
  if low then guess - 1 else guess

/-- The exponent of the last bit that a value of size `n / d` keeps. -/
def unitExponent (n d : Nat) : Int :=
  max (binaryExponent n d - 52) (-1074)

/-- The number of units that `n / d` rounds to. -/
def unitCount (n d : Nat) : Nat :=
  let u := unitExponent n d
  roundHalfEven (n * Nat.pow 2 (-u).toNat) (d * Nat.pow 2 u.toNat)

/-- `m * 2 ^ e` as an exact fraction. -/
def scaled (m : Nat) (e : Int) : Rat :=
  mkRat ((m * Nat.pow 2 e.toNat : Nat) : Int) (Nat.pow 2 (-e).toNat)

/-- The binary64 value nearest to `n / d`; the exponent is not bounded above. -/
def nearestRatio (n d : Nat) : Rat :=
  if n = 0 then 0 else scaled (unitCount n d) (unitExponent n d)

/-- The binary64 value nearest to `q`; the exponent is not bounded above. -/
def nearest (q : Rat) : Rat :=
  let m := nearestRatio q.num.natAbs q.den
  if q.num < 0 then -m else m

/-- Beyond the largest finite binary64 value. -/
def overflows (q : Rat) : Bool :=
  decide ((Nat.pow 2 1024 : Rat) ≤ q) || decide (q ≤ -(Nat.pow 2 1024 : Rat))

/-- The nearest integer to `n / d` with a half rounded up. -/
def roundHalfUp (n d : Nat) : Nat :=
  (2 * n + d) / (2 * d)

end Darkroom.Number
