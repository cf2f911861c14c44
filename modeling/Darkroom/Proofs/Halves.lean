/-
# Darkroom.Proofs.Halves -- half up, in spite of the roundings before it

A side that follows the proportions is a ratio of whole numbers, rounded half up.
The ratio, or a product with a ratio, is rounded to a double on the way, and so is
its sum with the half.  None of this shows: a ratio over `b` that is no half is
`1 / (2 * b)` away from every half, and that is more than the roundings move it.

* `halfUp_near`: a value within `1 / (8 * b)` of a ratio over `b` is rounded to a
  whole number that is at most a half from the ratio;
* `halfUp_nearest_div`: a ratio that is rounded once is rounded half up exactly, for
  a half is a double and is not moved at all.
-/
import Darkroom.Proofs.Quotient

namespace Darkroom.Number

set_option autoImplicit false

/-! ## A value near a ratio -/

/-- A value that reaches the half below a whole number is rounded up to it. -/
theorem le_halfUp {x : ℚ} {m : ℕ} (reached : (m : ℚ) - 1 / 2 ≤ x) (small : m ≤ 2 ^ 53) :
    (m : ℤ) ≤ halfUp x := by
  have whole : (m : ℚ) ≤ nearest (x + 1 / 2) := le_nearest (.natCast small) (by linarith)
  exact Rat.le_floor_iff.mpr (by exact_mod_cast whole)

theorem halfUp_nonneg {x : ℚ} (nonneg : 0 ≤ x) : 0 ≤ halfUp x :=
  le_halfUp (m := 0) (by norm_num; linarith) (by norm_num)

/-- The sum with the half is moved by one part in `2 ^ 53` at most. -/
theorem halfUp_le_moved {x : ℚ} (nonneg : 0 ≤ x) :
    (halfUp x : ℚ) ≤ (x + 1 / 2) * (1 + 1 / 2 ^ 53) := by
  have normal : (2 : ℚ) ^ (-1022 : ℤ) ≤ x + 1 / 2 := by
    have half : (2 : ℚ) ^ (-1022 : ℤ) ≤ 2 ^ (-1 : ℤ) :=
      zpow_le_zpow_right₀ one_le_two (by norm_num)
    rw [zpow_neg_one] at half
    linarith
  have moved := (abs_le.mp (abs_nearest_sub_le normal)).2
  have floor : (halfUp x : ℚ) ≤ nearest (x + 1 / 2) := Rat.floor_le _
  linarith

section Near

variable {x : ℚ} {a b : ℕ}

/-- A value that is hardly above a ratio is not rounded past the next half. -/
theorem halfUp_le_add_half (b0 : 0 < b) (small : a + b < 2 ^ 51) (nonneg : 0 ≤ x)
    (near : x * b ≤ a + 1 / 8) : (halfUp x : ℚ) ≤ a / b + 1 / 2 := by
  have b1 : (0 : ℚ) < b := by exact_mod_cast b0
  have moved := mul_le_mul_of_nonneg_right (halfUp_le_moved nonneg) b1.le
  obtain ⟨n, rounded⟩ := Int.eq_ofNat_of_zero_le (halfUp_nonneg nonneg)
  rw [rounded, Int.cast_natCast] at moved ⊢
  by_contra above
  -- Past the half means past it by a whole unit of the denominator.
  have beyond : ((2 * a + b : ℕ) : ℚ) < ((2 * b * n : ℕ) : ℚ) := by
    have scaled := mul_lt_mul_of_pos_right (lt_of_not_ge above) b1
    rw [add_mul, div_mul_cancel₀ _ b1.ne'] at scaled
    push_cast
    linarith
  have unit : ((2 * a + b + 1 : ℕ) : ℚ) ≤ ((2 * b * n : ℕ) : ℚ) := by exact_mod_cast beyond
  push_cast at unit
  have size : (a : ℚ) + b ≤ 2 ^ 51 := by exact_mod_cast small.le
  linarith

/-- A value that is hardly below a ratio is rounded to the half before it at least. -/
theorem sub_half_le_halfUp (b0 : 0 < b) (small : a + b < 2 ^ 51) (nonneg : 0 ≤ x)
    (near : a - 1 / 8 ≤ x * b) : (a : ℚ) / b - 1 / 2 ≤ halfUp x := by
  have b1 : (0 : ℚ) < b := by exact_mod_cast b0
  obtain ⟨n, rounded⟩ := Int.eq_ofNat_of_zero_le (halfUp_nonneg nonneg)
  rw [rounded, Int.cast_natCast]
  by_contra below
  have beyond : ((2 * b * n + b : ℕ) : ℚ) < ((2 * a : ℕ) : ℚ) := by
    have scaled := mul_lt_mul_of_pos_right (lt_of_not_ge below) b1
    rw [sub_mul, div_mul_cancel₀ _ b1.ne'] at scaled
    push_cast
    linarith
  have unit : 2 * b * n + b + 1 ≤ 2 * a := by exact_mod_cast beyond
  have reached : ((n + 1 : ℕ) : ℚ) - 1 / 2 ≤ x := by
    have units : (2 * b * n + b + 1 : ℚ) ≤ 2 * a := by exact_mod_cast unit
    refine le_of_mul_le_mul_right ?_ b1
    push_cast
    linarith
  have count : n < a := by
    have : n * 1 ≤ n * b := Nat.mul_le_mul_left n b0
    have : 2 * b * n = 2 * (n * b) := by ring
    omega
  have := le_halfUp reached (by omega)
  omega

/-- A value near a ratio is rounded to a whole number that is at most a half from it. -/
theorem halfUp_near (b0 : 0 < b) (small : a + b < 2 ^ 51) (nonneg : 0 ≤ x)
    (near : |x * b - a| ≤ 1 / 8) : |(halfUp x : ℚ) - a / b| ≤ 1 / 2 := by
  obtain ⟨below, above⟩ := abs_le.mp near
  have low := sub_half_le_halfUp b0 small nonneg (by linarith)
  have high := halfUp_le_add_half b0 small nonneg (by linarith)
  exact abs_le.mpr ⟨by linarith, by linarith⟩

/-! ## A ratio rounded once -/

/-- A ratio of whole numbers with a denominator far from the subnormal range. -/
theorem two_zpow_le_ratio (a0 : 0 < a) (b0 : 0 < b) (small : b ≤ 2 ^ 53) :
    (2 : ℚ) ^ (-1022 : ℤ) ≤ a / b := by
  have b1 : (0 : ℚ) < b := by exact_mod_cast b0
  have a1 : (1 : ℚ) ≤ a := by exact_mod_cast a0
  have size : (b : ℚ) ≤ 2 ^ 53 := by exact_mod_cast small
  calc (2 : ℚ) ^ (-1022 : ℤ) ≤ 2 ^ (-53 : ℤ) := zpow_le_zpow_right₀ one_le_two (by norm_num)
    _ = 1 / 2 ^ 53 := by rw [zpow_neg, one_div]; norm_cast
    _ ≤ 1 / b := one_div_le_one_div_of_le b1 size
    _ ≤ a / b := by gcongr

/-- A rounded ratio is one part in `2 ^ 53` away from the ratio at most. -/
theorem nearest_div_mul_sub_le (b0 : 0 < b) (small : b ≤ 2 ^ 53) :
    |nearest ((a : ℚ) / b) * b - a| ≤ a / 2 ^ 53 := by
  have b1 : (0 : ℚ) < b := by exact_mod_cast b0
  rcases Nat.eq_zero_or_pos a with rfl | a0
  · simp
  calc |nearest ((a : ℚ) / b) * b - a| = |nearest ((a : ℚ) / b) - a / b| * b := by
        rw [← abs_of_pos b1, ← abs_mul, abs_of_pos b1, sub_mul, div_mul_cancel₀ _ b1.ne']
    _ ≤ a / b / 2 ^ 53 * b := by
        gcongr
        exact abs_nearest_sub_le (two_zpow_le_ratio a0 b0 small)
    _ = a / 2 ^ 53 := by field_simp

/-- A rounded ratio is near the ratio. -/
theorem nearest_div_near (b0 : 0 < b) (product : a < 2 ^ 50) (small : b < 2 ^ 50) :
    |nearest ((a : ℚ) / b) * b - a| ≤ 1 / 8 := by
  have size : (a : ℚ) ≤ 2 ^ 50 := by exact_mod_cast product.le
  calc |nearest ((a : ℚ) / b) * b - a| ≤ a / 2 ^ 53 := nearest_div_mul_sub_le b0 (by omega)
    _ ≤ 1 / 8 := by linarith

/-- Rounding a ratio to a double first does not change how it is rounded half up. -/
theorem halfUp_nearest_div (b0 : 0 < b) (product : a < 2 ^ 50) (small : b < 2 ^ 50) :
    halfUp (nearest ((a : ℚ) / b)) = roundHalfUp a b := by
  have b1 : (0 : ℚ) < b := by exact_mod_cast b0
  have nonneg : 0 ≤ nearest ((a : ℚ) / b) := nearest_nonneg (by positivity)
  apply le_antisymm
  · have above := (abs_le.mp (nearest_div_near b0 product small)).2
    have high := halfUp_le_add_half b0 (by omega : a + b < 2 ^ 51) nonneg (by linarith)
    obtain ⟨n, rounded⟩ := Int.eq_ofNat_of_zero_le (halfUp_nonneg nonneg)
    rw [rounded, Int.cast_natCast] at high
    have within : n * (2 * b) ≤ 2 * a + b := by
      have scaled := mul_le_mul_of_nonneg_right high b1.le
      rw [add_mul, div_mul_cancel₀ _ b1.ne'] at scaled
      have : ((n * (2 * b) : ℕ) : ℚ) ≤ ((2 * a + b : ℕ) : ℚ) := by
        push_cast
        linarith
      exact_mod_cast this
    rw [rounded]
    exact_mod_cast (Nat.le_div_iff_mul_le (by omega)).mpr within
  · -- The half before the whole number is a double, so the rounded ratio reaches it too.
    have within : roundHalfUp a b * (2 * b) ≤ 2 * a + b := Nat.div_mul_le_self _ _
    generalize roundHalfUp a b = m at within ⊢
    rcases Nat.eq_zero_or_pos m with rfl | m0
    · exact halfUp_nonneg nonneg
    have count : m ≤ a := by
      by_contra more
      have : (a + 1) * (2 * b) ≤ m * (2 * b) := Nat.mul_le_mul_right _ (Nat.lt_of_not_le more)
      have : a * 2 ≤ a * (2 * b) := Nat.mul_le_mul_left a (by omega)
      have : (a + 1) * (2 * b) = a * (2 * b) + 2 * b := by ring
      omega
    have half : Representable ((4 * m - 2 : ℕ) / 4) := .quarters (by omega)
    have value : ((4 * m - 2 : ℕ) : ℚ) / 4 = m - 1 / 2 := by
      rw [Nat.cast_sub (by omega)]
      push_cast
      ring
    rw [value] at half
    have reached : (m : ℚ) - 1 / 2 ≤ a / b := by
      rw [le_div_iff₀ b1]
      have : ((m * (2 * b) : ℕ) : ℚ) ≤ ((2 * a + b : ℕ) : ℚ) := by exact_mod_cast within
      push_cast at this
      linarith
    exact le_halfUp (le_nearest half reached) (by omega)

end Near

end Darkroom.Number
