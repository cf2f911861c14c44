/-
# Darkroom.Proofs.SinglePrecision -- numbers of single precision and their bits

Single precision stores a number as its sign, its exponent and its mantissa without the
leading bit.  So among the numbers that are not below zero, infinity included, the
larger one is stored as the larger whole number: `lt_iff_toBits` and `beq_iff_toBits`
compare such numbers by their bits.

Two relations carry this.  `Stores` says by which bits a number is stored; there are
three cases, and `Stores.compare_eq` goes through the pairs of them.  `Plus` says that a
number has the sign of those above zero.  It is kept by the arithmetic before the
result is rounded into its bits, where the exponent has no bound yet, and rounding takes
it to bits up to those of infinity (`Plus.pack_le`).  So sums stay above zero, and
products with a finite factor do (`Nonneg.add`, `Nonneg.mul`).
-/
import Mathlib

namespace Darkroom.Single

set_option autoImplicit false

open Float.Model

variable {a b : Nat} {x y : UnpackedFloat}

/-- The bits of infinity. -/
def infinityBits : Nat := 0x7F800000

/-! ## Bits and numbers -/

/-- Whole numbers as bits, and the numbers from zero on that they store.  All finite ones
but the smallest have a mantissa of 24 bits; its leading bit adds one to the exponent
field. -/
inductive Stores : Nat → UnpackedFloat → Prop
  | zero : Stores 0 (.zero .positive)
  | finite {n e m : Nat} {exponent : Int} (positive : 0 < m) (bounded : e < 254)
      (short : m < 2 ^ 24) (full : e = 0 ∨ 2 ^ 23 ≤ m) (stored : n = e * 2 ^ 23 + m)
      (scaled : exponent = e - 149) : Stores n (.finite .positive m exponent positive)
  | infinity : Stores infinityBits (.infinity .positive)

/-- Stored numbers compare as their bits do. -/
theorem Stores.compare_eq (left : Stores a x) (right : Stores b y) :
    x.compare y = some (compare a b) := by
  cases left with
  | zero =>
    cases right with
    | zero | infinity => rfl
    | finite => exact congrArg some (Nat.compare_eq_lt.mpr (by omega)).symm
  | @finite a e m exponent =>
    cases right with
    | zero => exact congrArg some (Nat.compare_eq_gt.mpr (by omega)).symm
    | @finite b f n other =>
      refine congrArg some ?_
      rcases Nat.lt_trichotomy e f with less | same | more
      · have exponents : compare exponent other = .lt := Int.compare_eq_lt.mpr (by omega)
        have bits : compare a b = .lt := Nat.compare_eq_lt.mpr (by omega)
        rw [exponents, bits]
        rfl
      · have exponents : compare exponent other = .eq := Int.compare_eq_eq.mpr (by omega)
        have less : a < b ↔ m < n := by omega
        have more : b < a ↔ n < m := by omega
        rw [exponents, Nat.compare_eq_ite_lt a b]
        simp only [less, more, ← Nat.compare_eq_ite_lt]
        rfl
      · have exponents : compare exponent other = .gt := Int.compare_eq_gt.mpr (by omega)
        have bits : compare a b = .gt := Nat.compare_eq_gt.mpr (by omega)
        rw [exponents, bits]
        rfl
    | infinity =>
      have below : a < infinityBits := by
        unfold infinityBits
        omega
      exact congrArg some (Nat.compare_eq_lt.mpr below).symm
  | infinity =>
    cases right with
    | zero | infinity => rfl
    | finite =>
      have below : b < infinityBits := by
        unfold infinityBits
        omega
      exact congrArg some (Nat.compare_eq_gt.mpr below).symm

section Fields

variable (bits : BitVec 32)

theorem toNat_exponent :
    (@UnpackedFloat.unpackExponent Format.binary32 bits).toNat =
      bits.toNat / 2 ^ 23 % 2 ^ 8 := by
  rw [UnpackedFloat.unpackExponent_def, BitVec.extractLsb'_toNat, Nat.shiftRight_eq_div_pow]

theorem toNat_mantissa :
    (@UnpackedFloat.unpackMantissa Format.binary32 bits).toNat = bits.toNat % 2 ^ 23 := by
  rw [UnpackedFloat.unpackMantissa_def, BitVec.extractLsb'_toNat, Nat.shiftRight_zero]

theorem toNat_sign :
    (@UnpackedFloat.unpackSign Format.binary32 bits).toNat = bits.toNat / 2 ^ 31 % 2 := by
  rw [UnpackedFloat.unpackSign_def, BitVec.extractLsb'_toNat, Nat.shiftRight_eq_div_pow]
  rfl

theorem toNat_pack (exponent : BitVec 8) (mantissa : BitVec 23) :
    (UnpackedFloat.packComponents Format.binary32 .positive exponent mantissa).toNat =
      exponent.toNat * 2 ^ 23 + mantissa.toNat := by
  simp only [UnpackedFloat.packComponents, BitVec.toNat_append]
  rw [← Nat.shiftLeft_add_eq_or_of_lt mantissa.isLt, Nat.shiftLeft_eq]
  simp [UnpackedFloat.Sign.toBitVec]

end Fields

/-- Bits up to those of infinity store a number from zero on. -/
theorem stores_unpack {bits : BitVec 32} (le : bits.toNat ≤ infinityBits) :
    Stores bits.toNat (UnpackedFloat.unpack Format.binary32 bits) := by
  unfold infinityBits at le
  have exponent := toNat_exponent bits
  have mantissa := toNat_mantissa bits
  have sign : UnpackedFloat.Sign.ofBitVec
      (@UnpackedFloat.unpackSign Format.binary32 bits) = .positive := by
    refine if_pos (BitVec.eq_of_toNat_eq ?_)
    rw [toNat_sign, BitVec.toNat_ofNat]
    omega
  have leading : (1#1 ++ @UnpackedFloat.unpackMantissa Format.binary32 bits).toNat =
      2 ^ 23 + bits.toNat % 2 ^ 23 := by
    rw [BitVec.toNat_append, ← Nat.shiftLeft_add_eq_or_of_lt (BitVec.isLt _), mantissa]
    rfl
  have bias : ((Format.binary32.exponentBias : Nat) : Int) = 127 := rfl
  unfold UnpackedFloat.unpack
  simp only [sign, ← BitVec.toNat_inj, exponent, mantissa, leading, bias]
  -- An exponent field of ones is that of infinity, one of zeros has no leading bit.
  have ones : (-1#8 : BitVec 8).toNat = 255 := by decide
  simp only [ones, BitVec.toNat_ofNat, Nat.zero_mod]
  split_ifs with top whole bottom none_
  · have all : bits.toNat = infinityBits := by
      unfold infinityBits
      omega
    rw [all]
    exact .infinity
  · omega
  · have all : bits.toNat = 0 := by omega
    rw [all]
    exact .zero
  · refine .finite (e := 0) _ ?_ ?_ ?_ ?_ ?_ <;> omega
  · refine .finite (e := bits.toNat / 2 ^ 23 - 1) _ ?_ ?_ ?_ ?_ ?_ <;> omega

/-! ## Arithmetic above zero -/

/-- A number with the sign of those above zero. -/
def Plus : UnpackedFloat → Prop
  | .notANumber => False
  | .infinity s | .zero s | .finite s _ _ _ => s = .positive

theorem Stores.plus (stores : Stores a x) : Plus x := by
  cases stores <;> rfl

theorem plus_round (m : Nat) (e : Int) :
    Plus (UnpackedFloat.round Format.binary32 .positive m e) := by
  unfold UnpackedFloat.round UnpackedFloat.roundWithAccuracy
  dsimp only
  split <;> rfl

theorem plus_normalize {m : Int} (above : 0 ≤ m) (e : Int) :
    Plus (UnpackedFloat.normalize Format.binary32 m e .positive) := by
  unfold UnpackedFloat.normalize
  split
  case h_1 below =>
    rw [Int.compare_eq_lt] at below
    omega
  case h_2 => rfl
  case h_3 => exact plus_round _ _

theorem Plus.add (left : Plus x) (right : Plus y) :
    Plus (UnpackedFloat.add Format.binary32 x y) := by
  cases x with
  | notANumber => exact left.elim
  | infinity s =>
    obtain rfl : s = .positive := left
    cases y with
    | notANumber => exact right.elim
    | infinity t =>
      obtain rfl : t = .positive := right
      rfl
    | zero | finite => rfl
  | zero s =>
    obtain rfl : s = .positive := left
    cases y with
    | notANumber => exact right.elim
    | zero t =>
      obtain rfl : t = .positive := right
      rfl
    | infinity | finite => exact right
  | finite s =>
    obtain rfl : s = .positive := left
    cases y with
    | notANumber => exact right.elim
    | infinity => exact right
    | zero => rfl
    | finite t =>
      obtain rfl : t = .positive := right
      exact plus_normalize (Int.add_nonneg (Int.natCast_nonneg _) (Int.natCast_nonneg _)) _

/-- The product with a finite number above zero; infinity times zero is no number. -/
theorem Plus.mul (left : Plus x) {m : Nat} {e : Int} (positive : 0 < m) :
    Plus (UnpackedFloat.mul Format.binary32 x (.finite .positive m e positive)) := by
  cases x with
  | notANumber => exact left.elim
  | infinity s | zero s =>
    obtain rfl : s = .positive := left
    rfl
  | finite s =>
    obtain rfl : s = .positive := left
    unfold UnpackedFloat.mul UnpackedFloat.roundWithAccuracy
    dsimp only
    split <;> rfl

/-- What is above zero is rounded to bits up to those of infinity. -/
theorem Plus.pack_le (plus : Plus x) :
    (UnpackedFloat.pack Format.binary32 x).toNat ≤ infinityBits := by
  cases x with
  | notANumber => exact plus.elim
  | infinity s | zero s =>
    obtain rfl : s = .positive := plus
    decide
  | finite s m e =>
    obtain rfl : s = .positive := plus
    have short := (BitVec.ofNat 23 m).isLt
    unfold UnpackedFloat.pack infinityBits
    dsimp only
    split_ifs with large
    · decide
    · rw [toNat_pack, BitVec.toNat_ofNat _ 8]
      have low := Nat.mod_le (e + (Format.binary32.exponentBias : Int) + (23 : Nat)).toNat (2 ^ 8)
      omega
    · rw [toNat_pack, BitVec.toNat_ofNat _ 8, Nat.zero_mod]
      omega

/-! ## Numbers from zero on -/

/-- A number that is not below zero. -/
def Nonneg (r : Float32) : Prop := r.toBits.toNat ≤ infinityBits

variable {r s : Float32}

theorem Nonneg.stores (nonneg : Nonneg r) : Stores r.toBits.toNat r.toModel.unpack :=
  stores_unpack nonneg

theorem nonneg_ofUInt8 (n : UInt8) : Nonneg n.toFloat32 := by
  have plus : Plus (UnpackedFloat.ofUInt8 Format.binary32 n) :=
    plus_normalize (Int.natCast_nonneg _) _
  exact plus.pack_le

theorem Nonneg.add (left : Nonneg r) (right : Nonneg s) : Nonneg (r + s) :=
  (left.stores.plus.add right.stores.plus).pack_le

/-- The product with a finite number above zero. -/
theorem Nonneg.mul (left : Nonneg r) (positive : 0 < s.toBits.toNat)
    (finite : s.toBits.toNat < infinityBits) : Nonneg (r * s) := by
  have product : Plus (UnpackedFloat.mul Format.binary32 r.toModel.unpack s.toModel.unpack) := by
    have right := Nonneg.stores (r := s) (Nat.le_of_lt finite)
    -- Of what is stored only the bounds on its bits are known from here on.
    generalize s.toBits.toNat = n, s.toModel.unpack = y at right positive finite
    cases right with
    | zero => exact absurd positive (Nat.lt_irrefl _)
    | finite above => exact left.stores.plus.mul above
    | infinity => exact absurd finite (Nat.lt_irrefl _)
  exact product.pack_le

/-- Of two numbers from zero on the larger one is stored in the larger bits. -/
theorem lt_iff_toBits (left : Nonneg r) (right : Nonneg s) :
    r < s ↔ r.toBits.toNat < s.toBits.toNat := by
  have compared := left.stores.compare_eq right.stores
  change decide ((r.toModel.unpack.compare s.toModel.unpack == some .lt) = true) = true ↔ _
  rw [compared]
  simp [Nat.compare_eq_lt]

/-- Equal numbers from zero on are stored in the same bits. -/
theorem beq_iff_toBits (left : Nonneg r) (right : Nonneg s) :
    r == s ↔ r.toBits.toNat = s.toBits.toNat := by
  have compared := left.stores.compare_eq right.stores
  change (r.toModel.unpack.compare s.toModel.unpack == some .eq) = true ↔ _
  rw [compared]
  simp

end Darkroom.Single
