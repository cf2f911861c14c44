/-
# Darkroom.Proofs.Quotient -- arithmetic on whole numbers and doubles

Every result that is not below zero is `ofExact false` of its exact value, so
the operations on doubles are one rounding each: `div_natCast_eq_ok` for two
whole numbers, `div_real_eq_ok` and `mul_finite` for a whole number and a ratio.

`nearest_div_lt_one` is why the policy may compare a rounded ratio with one: for
whole numbers below `2 ^ 53` the largest ratio below one is a whole unit away
from it.  `halfUp` is the rounding of derived sides, and `halfUp_le` keeps it
within any whole number that the value is not clearly above.
-/
import Darkroom.Fault
import Darkroom.Proofs.Outcome
import Darkroom.Proofs.Rounding

namespace Darkroom

set_option autoImplicit false

open Number

/-! ## Rounded results -/

namespace Double

/-- What an exact result that is not below zero rounds to. -/
theorem ofExact_of_nonneg {q : ℚ} (nonneg : 0 ≤ q) :
    ofExact false q =
      if (2 : ℚ) ^ 1024 ≤ nearest q then .infinite false else .finite (nearest q) := by
  have sign : ¬ nearest q < 0 := (nearest_nonneg nonneg).not_gt
  unfold ofExact
  dsimp only
  by_cases zero : nearest q = 0
  · have positive : ¬ (2 : ℚ) ^ 1024 ≤ 0 := not_le.mpr (by positivity)
    rw [zero, if_neg positive]
    rfl
  · have below : ¬ nearest q ≤ -(2 : ℚ) ^ 1024 := by
      intro le
      exact sign (le.trans_lt (neg_lt_zero.mpr (by positivity)))
    simp only [if_neg zero, overflows, Nat.pow_eq, Nat.cast_pow, Nat.cast_ofNat, below, sign,
      decide_false, Bool.or_false, decide_eq_true_eq]

theorem half_eq : ofRat (1 / 2) = .finite (1 / 2) := by decide +kernel

theorem add_half {x : ℚ} (nonneg : 0 ≤ x) :
    (Double.finite x).add (ofRat (1 / 2)) = ofExact false (x + 1 / 2) := by
  have sign : ¬ x + 1 / 2 < 0 := by linarith
  rw [half_eq]
  simp only [add, toRat?, Option.getD_some]
  congr 1
  exact decide_eq_false sign

@[simp] theorem lt_finite (x y : ℚ) : (Double.finite x).lt (.finite y) = decide (x < y) := rfl

end Double

namespace Number

/-- A rounded result that stays below the largest binary64 value. -/
theorem finiteDouble_of_nonneg {q : ℚ} (nonneg : 0 ≤ q) :
    finiteDouble false q =
      if (2 : ℚ) ^ 1024 ≤ nearest q then .error .overflow else .ok (.finite (nearest q)) := by
  unfold finiteDouble
  rw [Double.ofExact_of_nonneg nonneg]
  split_ifs <;> rfl

theorem finiteDouble_eq_ok {q : ℚ} {x : Double} (nonneg : 0 ≤ q)
    (found : finiteDouble false q = .ok x) :
    x = .finite (nearest q) := by
  rw [finiteDouble_of_nonneg nonneg] at found
  split_ifs at found
  exact (Except.ok.inj found).symm

/-- The quotient of two whole numbers, rounded once. -/
theorem div_natCast (m : ℕ) {n : ℕ} (positive : 0 < n) :
    (Number.int m).div (.int n) = finiteDouble false ((m : ℚ) / n) := by
  have nonzero : ((n : ℕ) : ℤ) ≠ 0 := by omega
  have signs : (decide (((m : ℕ) : ℤ) < 0) != decide (((n : ℕ) : ℤ) < 0)) = false := by
    rw [decide_eq_false (by omega), decide_eq_false (by omega)]
    rfl
  simp only [div, if_neg nonzero, signs, Int.cast_natCast]

theorem div_natCast_eq_ok {m n : ℕ} {x : Double} (positive : 0 < n)
    (found : (Number.int m).div (.int n) = .ok x) : x = .finite (nearest ((m : ℚ) / n)) := by
  rw [div_natCast m positive] at found
  exact finiteDouble_eq_ok (by positivity) found

/-- The largest finite binary64 value. -/
def largestDouble : ℚ := (2 ^ 53 - 1) * 2 ^ 971

theorem largestDouble_lt : largestDouble < 2 ^ 1024 := by
  calc largestDouble < 2 ^ 53 * 2 ^ 971 := by
        unfold largestDouble
        gcongr
        norm_num
    _ = 2 ^ 1024 := by rw [← pow_add]

theorem largestDouble_representable : Representable largestDouble := by
  refine ⟨2 ^ 53 - 1, 971, by norm_num, by norm_num, ?_⟩
  rw [largestDouble, show (971 : ℤ) = (971 : ℕ) from rfl, zpow_natCast]
  norm_num

/-- A quotient within the finite range is found. -/
theorem div_natCast_of_le {m n : ℕ} (positive : 0 < n) (fits : (m : ℚ) / n ≤ largestDouble) :
    (Number.int m).div (.int n) = .ok (.finite (nearest ((m : ℚ) / n))) := by
  have nonneg : (0 : ℚ) ≤ (m : ℚ) / n := by positivity
  have small : nearest ((m : ℚ) / n) < 2 ^ 1024 :=
    (nearest_le nonneg largestDouble_representable fits).trans_lt largestDouble_lt
  rw [div_natCast m positive, finiteDouble_of_nonneg nonneg, if_neg small.not_ge]

/-- A ratio of a side is within the finite range. -/
theorem div_le_largestDouble {m n : ℕ} (positive : 0 < n) (small : m ≤ 2 ^ 53) :
    (m : ℚ) / n ≤ largestDouble := by
  have one : (1 : ℚ) ≤ n := by exact_mod_cast positive
  calc (m : ℚ) / n ≤ m := div_le_self (Nat.cast_nonneg m) one
    _ ≤ (2 ^ 53 : ℕ) := by exact_mod_cast small
    _ ≤ largestDouble := by decide +kernel

/-- Comparing a rounded ratio with one is comparing the whole numbers: the
largest ratio below one is a whole unit away from it. -/
theorem nearest_div_lt_one {w s : ℕ} (positive : 0 < s) (small : s ≤ 2 ^ 53) :
    nearest ((w : ℚ) / s) < 1 ↔ w < s := by
  have s0 : (0 : ℚ) < s := by exact_mod_cast positive
  constructor
  · intro below
    by_contra above
    have one : (1 : ℚ) ≤ w / s := by
      rw [le_div_iff₀ s0, one_mul]
      exact_mod_cast Nat.le_of_not_lt above
    have whole : Representable 1 := by
      simpa using Representable.natCast (n := 1) (by norm_num)
    exact (le_nearest whole one).not_gt below
  · intro lt
    have last : Representable (1 - 1 / 2 ^ 53) := by
      refine ⟨2 ^ 53 - 1, -53, by norm_num, by norm_num, ?_⟩
      norm_num
    have step : (w : ℚ) + 1 ≤ s := by exact_mod_cast lt
    have size : (s : ℚ) ≤ 2 ^ 53 := by exact_mod_cast small
    have le : (w : ℚ) / s ≤ 1 - 1 / 2 ^ 53 := by
      rw [div_le_iff₀ s0]
      linarith
    exact (nearest_le (by positivity) last le).trans_lt (by norm_num)

end Number

/-! ## Whole numbers and ratios -/

namespace Number

theorem le_natCast (m n : ℕ) : (Number.int m).le (.int n) = decide (m ≤ n) := by
  simp [le, isNan, lt, ← decide_not]

theorem toDouble_natCast {n : ℕ} (small : n ≤ 2 ^ 53) :
    (Number.int n).toDouble = .ok (.finite n) := by
  have fits : ¬ (2 : ℚ) ^ 1024 ≤ n := by
    have : (n : ℚ) ≤ 2 ^ 53 := by exact_mod_cast small
    exact not_le.mpr (this.trans_lt (pow_lt_pow_right₀ one_lt_two (by norm_num)))
  have sign : decide (((n : ℕ) : ℤ) < 0) = false := decide_eq_false (by omega)
  rw [toDouble, sign, Int.cast_natCast, finiteDouble_of_nonneg (by positivity),
    nearest_of_representable (.natCast small), if_neg fits]

theorem isNegative_finite {q : ℚ} (nonneg : 0 ≤ q) : (Double.finite q).isNegative = false :=
  decide_eq_false nonneg.not_gt

/-- The quotient of a whole number and a ratio, rounded once. -/
theorem div_real {n : ℕ} (small : n ≤ 2 ^ 53) {r : ℚ} (positive : 0 < r) :
    (Number.int n).div (.real (.finite r)) = .ok (Double.ofExact false (n / r)) := by
  have zero : (Double.finite r).isZero = false := beq_eq_false_iff_ne.mpr positive.ne'
  have real : (Number.real (.finite r)).toDouble = .ok (.finite r) := rfl
  simp only [div, toDouble_natCast small, real, Outcome.ok_bind, Double.div?, zero,
    isNegative_finite (Nat.cast_nonneg n), isNegative_finite positive.le, Double.toRat?,
    bne_self_eq_false, Bool.false_eq_true, if_false]

theorem div_real_eq_ok {n : ℕ} (small : n ≤ 2 ^ 53) {r : ℚ} (positive : 0 < r) {x : Double}
    (found : (Number.int n).div (.real (.finite r)) = .ok x) :
    x = Double.ofExact false (n / r) := by
  rw [div_real small positive] at found
  exact (Except.ok.inj found).symm

theorem mul_finite {n : ℕ} {r : ℚ} (nonneg : 0 ≤ r) :
    (Double.finite (n : ℚ)).mul (.finite r) = Double.ofExact false (n * r) := by
  simp only [Double.mul, isNegative_finite (Nat.cast_nonneg n), isNegative_finite nonneg,
    bne_self_eq_false, Double.toRat?]

end Number

/-! ## Rounding half up -/

namespace Number

/-- A value with a half added and the rest cut off, each step rounded as the
program rounds it. -/
def halfUp (x : ℚ) : ℤ := (nearest (x + 1 / 2)).floor

/-- A value that is above a whole number by rounding only is not rounded up. -/
theorem halfUp_le {x : ℚ} {n : ℕ} (nonneg : 0 ≤ x) (le : x ≤ n + 1 / 4) (small : n < 2 ^ 50) :
    halfUp x ≤ n := by
  have quarters : Representable ((4 * n + 3 : ℕ) / 4) := .quarters (by omega)
  push_cast at quarters
  have bound : nearest (x + 1 / 2) ≤ (4 * n + 3) / 4 :=
    nearest_le (by linarith) quarters (by linarith)
  have below : nearest (x + 1 / 2) < ((n + 1 : ℤ) : ℚ) := by
    push_cast
    linarith
  have := Rat.floor_lt_iff.mpr below
  unfold halfUp
  omega

theorem toRat?_ofExact {q r : ℚ} (nonneg : 0 ≤ q)
    (value : (Double.ofExact false q).toRat? = some r) :
    r = nearest q := by
  rw [Double.ofExact_of_nonneg nonneg] at value
  split_ifs at value
  · simp [Double.toRat?] at value
  · exact (Option.some.inj value).symm

/-- An exact result within a whole number is finite. -/
theorem ofExact_found {q : ℚ} {n : ℕ} (nonneg : 0 ≤ q) (le : q ≤ n) (small : n ≤ 2 ^ 53) :
    Double.ofExact false q = .finite (nearest q) := by
  have bound : nearest q ≤ n := nearest_le nonneg (.natCast small) le
  have size : (n : ℚ) ≤ 2 ^ 53 := by exact_mod_cast small
  have finite : ¬(2 : ℚ) ^ 1024 ≤ nearest q :=
    not_le.mpr ((bound.trans size).trans_lt (pow_lt_pow_right₀ one_lt_two (by norm_num)))
  rw [Double.ofExact_of_nonneg nonneg, if_neg finite]

/-- An exact result within a whole number is rounded to a value within it. -/
theorem toRat?_ofExact_found {q : ℚ} {n : ℕ} (nonneg : 0 ≤ q) (le : q ≤ n) (small : n ≤ 2 ^ 53) :
    ∃ r, (Double.ofExact false q).toRat? = some r ∧ 0 ≤ r ∧ r ≤ n := by
  rw [ofExact_found nonneg le small]
  exact ⟨nearest q, rfl, nearest_nonneg nonneg, nearest_le nonneg (.natCast small) le⟩

theorem floor_add_half {x : ℚ} {n : ℤ} (nonneg : 0 ≤ x)
    (found : floor ((Double.finite x).add (.ofRat (1 / 2))) = .ok n) : n = halfUp x := by
  rw [Double.add_half nonneg, floor] at found
  split at found
  · rename_i q value
    rw [← Except.ok.inj found, toRat?_ofExact (by linarith) value]
    rfl
  · simp at found

/-- A value far below the end of the finite range is rounded half up. -/
theorem floor_add_half_found {x : ℚ} (nonneg : 0 ≤ x) (le : x ≤ 2 ^ 62) :
    ∃ n, floor ((Double.finite x).add (.ofRat (1 / 2))) = .ok n := by
  have bound : nearest (x + 1 / 2) ≤ 2 ^ (63 : ℤ) := by
    refine nearest_le (by linarith) (.two_zpow (by norm_num)) ?_
    linarith [show (2 : ℚ) ^ 62 + 1 / 2 ≤ 2 ^ (63 : ℤ) by norm_num]
  have finite : ¬(2 : ℚ) ^ 1024 ≤ nearest (x + 1 / 2) := by
    refine not_le.mpr (bound.trans_lt ?_)
    exact_mod_cast pow_lt_pow_right₀ (one_lt_two : (1 : ℚ) < 2) (by norm_num : 63 < 1024)
  rw [Double.add_half nonneg, Double.ofExact_of_nonneg (by linarith), if_neg finite]
  exact ⟨_, rfl⟩

theorem truncate_add_half {x : ℚ} {n : ℤ} (nonneg : 0 ≤ x)
    (found : truncate ((Double.finite x).add (.ofRat (1 / 2))) = .ok n) : n = halfUp x := by
  rw [Double.add_half nonneg, truncate] at found
  split at found
  · rename_i q value
    obtain rfl := toRat?_ofExact (by linarith) value
    have sign : ¬ nearest (x + 1 / 2) < 0 := (nearest_nonneg (by linarith)).not_gt
    rw [← Except.ok.inj found, if_neg sign]
    rfl
  · simp at found

/-- An exact result within a whole number is rounded half up. -/
theorem truncate_ofExact {q : ℚ} {n : ℕ} (nonneg : 0 ≤ q) (le : q ≤ n) (small : n < 2 ^ 53) :
    truncate ((Double.ofExact false q).add (.ofRat (1 / 2))) = .ok (halfUp (nearest q)) := by
  have bound : nearest q ≤ n := nearest_le nonneg (.natCast small.le) le
  have within : nearest q + 1 / 2 ≤ (n + 1 : ℕ) := by
    push_cast
    linarith
  have positive := nearest_nonneg nonneg
  have sign : ¬ nearest (nearest q + 1 / 2) < 0 := (nearest_nonneg (by linarith)).not_gt
  rw [ofExact_found nonneg le small.le, Double.add_half positive,
    ofExact_found (by linarith) within small]
  simp only [truncate, Double.toRat?, if_neg sign]
  rfl

/-- An exact result that is hardly above a whole number, rounded to a double and
then half up to a whole number, is within it. -/
theorem truncate_ofExact_le {q : ℚ} {n : ℕ} {k : ℤ} (nonneg : 0 ≤ q) (le : q ≤ n + 1 / 4)
    (small : n < 2 ^ 50)
    (found : truncate ((Double.ofExact false q).add (.ofRat (1 / 2))) = .ok k) : k ≤ n := by
  have quarters : Representable ((4 * n + 1 : ℕ) / 4) := .quarters (by omega)
  push_cast at quarters
  have bound : nearest q ≤ n + 1 / 4 :=
    (nearest_le nonneg quarters (by linarith)).trans_eq (by ring)
  have size : (n : ℚ) + 1 / 4 ≤ 2 ^ 51 := by
    have : (n : ℚ) ≤ 2 ^ 50 := by exact_mod_cast small.le
    linarith
  have finite : ¬ (2 : ℚ) ^ 1024 ≤ nearest q :=
    not_le.mpr ((bound.trans size).trans_lt (pow_lt_pow_right₀ one_lt_two (by norm_num)))
  rw [Double.ofExact_of_nonneg nonneg, if_neg finite] at found
  rw [truncate_add_half (nearest_nonneg nonneg) found]
  exact halfUp_le (nearest_nonneg nonneg) bound small

end Number

end Darkroom
