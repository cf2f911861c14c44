/-
# Darkroom.Number.Decimal -- decimal text of binary64 values

Two forms are written.  `fixed` has a given number of places and rounds the
exact value, a half going to the even digit.  `shortest` has the fewest digits
that read back as the value and, among those, the digits nearest to it, the even
ones of two equally near; it is positional while the point stays between the
fourth place after and the sixteenth digit before, and in powers of ten beyond
that.
-/
import Darkroom.Number.Double

namespace Darkroom.Number

set_option autoImplicit false

/-- The decimal digits of `n`, padded with zeros on the left. -/
def padded (width n : Nat) : String :=
  let digits := toString n
  "".pushn '0' (width - digits.length) ++ digits

/-- `n / 10 ^ places` with the point written. -/
def withPoint (places n : Nat) : String :=
  if places = 0 then toString n
  else toString (n / Nat.pow 10 places) ++ "." ++ padded places (n % Nat.pow 10 places)

/-! ## The fewest digits that read back -/

/-- A decimal `digits * 10 ^ exponent`. -/
structure Scientific where
  digits : Nat
  exponent : Int
  deriving DecidableEq, Inhabited

namespace Scientific

def toRat (s : Scientific) : Rat :=
  if 0 ≤ s.exponent then ((s.digits * Nat.pow 10 s.exponent.toNat : Nat) : Rat)
  else mkRat (s.digits : Int) (Nat.pow 10 (-s.exponent).toNat)

/-- Drop zeros from the end of the digits. -/
def trim (s : Scientific) : Nat → Scientific
  | 0 => s
  | fuel + 1 =>
      if s.digits ≠ 0 ∧ s.digits % 10 = 0 then trim ⟨s.digits / 10, s.exponent + 1⟩ fuel else s

end Scientific

/-- The distance of two fractions. -/
def distance (a b : Rat) : Rat := if a ≤ b then b - a else a - b

/-- The exponent `k` with `10 ^ k ≤ q < 10 ^ (k + 1)`, searched upwards from `k`. -/
def decimalExponent (q : Rat) (k : Int) : Nat → Int
  | 0 => k
  | fuel + 1 =>
      if q < Scientific.toRat ⟨1, k + 1⟩ then k else decimalExponent q (k + 1) fuel

/-- The decimal with `count` digits nearest to `q` that rounds to `q`, if either
neighbour of `q` on that grid does. -/
def readsBack? (q : Rat) (top : Int) (count : Nat) : Option Scientific :=
  let unit : Int := top + 1 - count
  let exact := q / Scientific.toRat ⟨1, unit⟩
  let low : Scientific := ⟨exact.floor.toNat, unit⟩
  let high : Scientific := ⟨exact.floor.toNat + 1, unit⟩
  let fits := fun s : Scientific => nearest s.toRat == q
  match fits low, fits high with
  | true, true =>
      let below := distance q low.toRat
      let above := distance q high.toRat
      if below < above ∨ (below = above ∧ low.digits % 2 = 0) then some low else some high
  | true, false => some low
  | false, true => some high
  | false, false => none

/-- The shortest decimal that rounds to the positive double `q`. -/
def shortestDigits (q : Rat) : Scientific :=
  let rough : Int := (binaryExponent q.num.natAbs q.den * 30103) / 100000 - 1
  let top := decimalExponent q rough 4
  let found := ((List.range 17).map (· + 1)).findSome? (readsBack? q top)
  (found.getD ⟨0, 0⟩).trim 17

/-- Digits with the point placed `point` digits from their start. -/
def positional (digits : String) (point : Int) : String :=
  let count : Int := digits.length
  if point ≤ 0 then "0." ++ "".pushn '0' (-point).toNat ++ digits
  else if count ≤ point then digits ++ "".pushn '0' (point - count).toNat ++ ".0"
  else String.ofList (digits.toList.take point.toNat) ++ "." ++
    String.ofList (digits.toList.drop point.toNat)

/-- Digits with a point after the first and a power of ten. -/
def exponential (digits : String) (point : Int) : String :=
  let exponent := point - 1
  let mantissa := match digits.toList with
    | [] => "0"
    | [c] => String.singleton c
    | c :: rest => String.ofList (c :: '.' :: rest)
  mantissa ++ "e" ++ (if exponent < 0 then "-" else "+") ++ padded 2 exponent.natAbs

/-- The text of a positive finite double. -/
def shortestPositive (q : Rat) : String :=
  let s := shortestDigits q
  let digits := toString s.digits
  let point := (digits.length : Int) + s.exponent
  if -4 < point ∧ point ≤ 16 then positional digits point else exponential digits point

end Darkroom.Number

namespace Darkroom.Double

open Number

/-- The value with a given number of decimal places. -/
def fixed (places : Nat) (x : Double) : String :=
  match x with
  | .nan => "nan"
  | .infinite negative => if negative then "-inf" else "inf"
  | x =>
      let q := x.toRat?.getD 0
      (if x.isNegative then "-" else "") ++
        withPoint places (roundHalfEven (q.num.natAbs * Nat.pow 10 places) q.den)

/-- The shortest text that reads back as the value. -/
def shortest (x : Double) : String :=
  match x with
  | .nan => "nan"
  | .infinite negative => if negative then "-inf" else "inf"
  | .negZero => "-0.0"
  | .finite q =>
      if q = 0 then "0.0"
      else if q < 0 then "-" ++ shortestPositive (-q)
      else shortestPositive q

end Darkroom.Double

