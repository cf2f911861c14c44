/-
# Darkroom.Proofs.Rounding -- what rounding to a binary64 value keeps

The decisions of the engine are taken on rounded quotients.  Three facts about
`nearest` carry all of them, so nothing else looks into the rounding:

* `nearest_mono`: rounding keeps the order;
* `nearest_of_representable`: a value that fits into 53 bits, none of them below
  `2 ^ (-1074)`, is not changed, so by the first fact such a value that bounds a
  fraction bounds the rounded fraction as well (`nearest_le`, `le_nearest`);
* `abs_nearest_sub_le`: above the subnormal range the rounded fraction is off by
  at most one part in `2 ^ 53`.

Fractions below zero play no part in a valid request and are left out.
-/
import Darkroom.Number.Rounding
import Mathlib.Algebra.Order.Field.Power
import Mathlib.Data.Rat.Floor
import Mathlib.Tactic.FieldSimp
import Mathlib.Tactic.Linarith
import Mathlib.Tactic.NormNum
import Mathlib.Tactic.Positivity
import Mathlib.Tactic.Ring

namespace Darkroom.Number

set_option autoImplicit false

/-- A value of at most 53 bits, none of them below `2 ^ (-1074)`. -/
def Representable (r : ℚ) : Prop :=
  ∃ (m : ℕ) (e : ℤ), m ≤ 2 ^ 53 ∧ -1074 ≤ e ∧ r = m * 2 ^ e

namespace Representable

theorem nonneg {r : ℚ} (representable : Representable r) : 0 ≤ r := by
  obtain ⟨m, e, -, -, rfl⟩ := representable
  positivity

theorem natCast {n : ℕ} (small : n ≤ 2 ^ 53) : Representable n :=
  ⟨n, 0, small, by norm_num, by simp⟩

theorem quarters {m : ℕ} (small : m ≤ 2 ^ 53) : Representable (m / 4) := by
  refine ⟨m, -2, small, by norm_num, ?_⟩
  norm_num
  ring

theorem two_zpow {e : ℤ} (large : -1074 ≤ e) : Representable (2 ^ e) :=
  ⟨1, e, by norm_num, large, by simp⟩

end Representable

/-! ## Rounding a fraction to a whole number -/

theorem roundHalfEven_cases (n d : ℕ) :
    (roundHalfEven n d = n / d ∧ 2 * (n % d) ≤ d ∧ (2 * (n % d) = d → n / d % 2 = 0)) ∨
      (roundHalfEven n d = n / d + 1 ∧ d ≤ 2 * (n % d) ∧
        (2 * (n % d) = d → (n / d + 1) % 2 = 0)) := by
  unfold roundHalfEven
  dsimp only
  split
  · exact .inr ⟨rfl, by omega, by omega⟩
  · exact .inl ⟨rfl, by omega, by omega⟩

private theorem div_eq_quotient_add {n d : ℕ} (positive : 0 < d) :
    (n : ℚ) / d = (n / d : ℕ) + (n % d : ℕ) / d := by
  have split : ((d * (n / d) + n % d : ℕ) : ℚ) = n := by rw [Nat.div_add_mod]
  have nonzero : (d : ℚ) ≠ 0 := by positivity
  push_cast at split ⊢
  rw [← split]
  field_simp

/-- The rounded quotient is at most a half away, and even where it is a half away. -/
theorem roundHalfEven_spec {n d : ℕ} (positive : 0 < d) :
    |(roundHalfEven n d : ℚ) - n / d| ≤ 1 / 2 ∧
      (|(roundHalfEven n d : ℚ) - n / d| = 1 / 2 → roundHalfEven n d % 2 = 0) := by
  have d0 : (0 : ℚ) < d := by exact_mod_cast positive
  rw [div_eq_quotient_add positive]
  rcases roundHalfEven_cases n d with ⟨value, below, tie⟩ | ⟨value, above, tie⟩
  · have rest : ((n / d : ℕ) : ℚ) - ((n / d : ℕ) + (n % d : ℕ) / d) = -((n % d : ℕ) / d) := by ring
    rw [value, rest, abs_neg, abs_of_nonneg (by positivity)]
    constructor
    · rw [div_le_iff₀ d0]
      have : ((2 * (n % d) : ℕ) : ℚ) ≤ d := by exact_mod_cast below
      push_cast at this
      linarith
    · intro half
      rw [div_eq_iff d0.ne'] at half
      have : ((2 * (n % d) : ℕ) : ℚ) = d := by push_cast; linarith
      exact tie (by exact_mod_cast this)
  · have rest : ((n / d + 1 : ℕ) : ℚ) - ((n / d : ℕ) + (n % d : ℕ) / d) =
        1 - (n % d : ℕ) / d := by push_cast; ring
    have small : ((n % d : ℕ) : ℚ) / d ≤ 1 := by
      rw [div_le_one d0]
      exact_mod_cast (Nat.mod_lt n positive).le
    rw [value, rest, abs_of_nonneg (by linarith)]
    have half : (1 : ℚ) / 2 ≤ (n % d : ℕ) / d := by
      rw [le_div_iff₀ d0]
      have : (d : ℚ) ≤ ((2 * (n % d) : ℕ) : ℚ) := by exact_mod_cast above
      push_cast at this
      linarith
    constructor
    · linarith
    · intro equal
      have : ((n % d : ℕ) : ℚ) / d = 1 / 2 := by linarith
      rw [div_eq_iff d0.ne'] at this
      have : ((2 * (n % d) : ℕ) : ℚ) = d := by push_cast; linarith
      exact tie (by exact_mod_cast this)

/-- Rounding keeps the order of two quotients.  Were the smaller one rounded to
a larger number, both would be the half between two even neighbours. -/
theorem roundHalfEven_mono {n d n' d' : ℕ} (positive : 0 < d) (positive' : 0 < d')
    (le : (n : ℚ) / d ≤ n' / d') : roundHalfEven n d ≤ roundHalfEven n' d' := by
  by_contra above
  obtain ⟨near, even⟩ := roundHalfEven_spec (n := n) positive
  obtain ⟨near', even'⟩ := roundHalfEven_spec (n := n') positive'
  have step : (roundHalfEven n' d' : ℚ) + 1 ≤ roundHalfEven n d := by
    exact_mod_cast Nat.lt_of_not_le above
  rw [abs_le] at near near'
  have half : (roundHalfEven n d : ℚ) - n / d = 1 / 2 := by linarith
  have half' : (roundHalfEven n' d' : ℚ) - n' / d' = -(1 / 2) := by linarith
  have even := even (by rw [half]; norm_num)
  have even' := even' (by rw [half']; norm_num)
  have next : (roundHalfEven n d : ℚ) = (roundHalfEven n' d' + 1 : ℕ) := by push_cast; linarith
  have : roundHalfEven n d = roundHalfEven n' d' + 1 := by exact_mod_cast next
  omega

/-- A quotient is rounded to no more than a whole number above it. -/
theorem roundHalfEven_le {n d k : ℕ} (positive : 0 < d) (le : (n : ℚ) / d ≤ k) :
    roundHalfEven n d ≤ k := by
  obtain ⟨near, -⟩ := roundHalfEven_spec (n := n) positive
  rw [abs_le] at near
  by_contra above
  have step : (k : ℚ) + 1 ≤ roundHalfEven n d := by exact_mod_cast Nat.lt_of_not_le above
  linarith

theorem le_roundHalfEven {n d k : ℕ} (positive : 0 < d) (le : (k : ℚ) ≤ n / d) :
    k ≤ roundHalfEven n d := by
  obtain ⟨near, -⟩ := roundHalfEven_spec (n := n) positive
  rw [abs_le] at near
  by_contra below
  have step : (roundHalfEven n d : ℚ) + 1 ≤ k := by exact_mod_cast Nat.lt_of_not_le below
  linarith

/-! ## The unit in the last place -/

theorem two_zpow_eq (e : ℤ) : (2 : ℚ) ^ e = 2 ^ e.toNat / 2 ^ (-e).toNat := by
  rcases le_total 0 e with sign | sign
  · rw [Int.toNat_of_nonpos (by omega : -e ≤ 0), pow_zero, div_one, ← zpow_natCast,
      Int.toNat_of_nonneg sign]
  · rw [Int.toNat_of_nonpos sign, pow_zero, one_div, ← zpow_natCast,
      Int.toNat_of_nonneg (by omega : 0 ≤ -e), zpow_neg, inv_inv]

theorem scaled_eq (m : ℕ) (e : ℤ) : scaled m e = m * 2 ^ e := by
  rw [scaled, Rat.mkRat_eq_div, two_zpow_eq, Nat.pow_eq, Nat.pow_eq]
  push_cast
  ring

/-- A ratio in units of `2 ^ e`, as the program forms it from whole numbers. -/
theorem ratio_in_units (n d : ℕ) (e : ℤ) :
    ((n * 2 ^ (-e).toNat : ℕ) : ℚ) / ((d * 2 ^ e.toNat : ℕ) : ℚ) = n / d / 2 ^ e := by
  rw [two_zpow_eq]
  push_cast
  field_simp

/-- Units of `2 ^ e` counted in smaller units. -/
theorem units_of_le {u e : ℤ} (m : ℕ) (le : u ≤ e) :
    (m : ℚ) * 2 ^ e = (m * 2 ^ (e - u).toNat : ℕ) * 2 ^ u := by
  push_cast
  rw [mul_assoc, ← zpow_natCast, Int.toNat_of_nonneg (by omega), ← zpow_add₀ two_ne_zero,
    sub_add_cancel]

theorem two_zpow_add_52 (u : ℤ) : (2 : ℚ) ^ (u + 52) = (2 ^ 52 : ℕ) * 2 ^ u := by
  rw [zpow_add₀ two_ne_zero, mul_comm]
  norm_num

/-- The binary exponent places a ratio between two neighbouring powers of two. -/
theorem binaryExponent_spec {n d : ℕ} (n0 : 0 < n) (d0 : 0 < d) :
    (2 : ℚ) ^ binaryExponent n d ≤ n / d ∧ (n : ℚ) / d < 2 ^ (binaryExponent n d + 1) := by
  have dq : (0 : ℚ) < d := by exact_mod_cast d0
  have nlow : (2 : ℚ) ^ (n.log2 : ℤ) ≤ n := by
    rw [zpow_natCast]; exact_mod_cast Nat.log2_self_le n0.ne'
  have nhigh : (n : ℚ) < 2 ^ (n.log2 + 1 : ℤ) := by
    rw [← Nat.cast_succ, zpow_natCast]; exact_mod_cast Nat.lt_log2_self (n := n)
  have dlow : (2 : ℚ) ^ (d.log2 : ℤ) ≤ d := by
    rw [zpow_natCast]; exact_mod_cast Nat.log2_self_le d0.ne'
  have dhigh : (d : ℚ) < 2 ^ (d.log2 + 1 : ℤ) := by
    rw [← Nat.cast_succ, zpow_natCast]; exact_mod_cast Nat.lt_log2_self (n := d)
  unfold binaryExponent
  dsimp only [Nat.pow_eq]
  generalize guessed : (n.log2 : ℤ) - d.log2 = guess
  have test : n * 2 ^ (-guess).toNat < d * 2 ^ guess.toNat ↔ (n : ℚ) / d < 2 ^ guess := by
    rw [← div_lt_one (b := (2 : ℚ) ^ guess) (by positivity), ← ratio_in_units,
      div_lt_one (by positivity), Nat.cast_lt]
  have under : (2 : ℚ) ^ (guess - 1) ≤ n / d := by
    rw [le_div_iff₀ dq]
    calc (2 : ℚ) ^ (guess - 1) * d ≤ 2 ^ (guess - 1) * 2 ^ (d.log2 + 1 : ℤ) := by gcongr
      _ = 2 ^ (n.log2 : ℤ) := by rw [← zpow_add₀ two_ne_zero]; congr 1; omega
      _ ≤ n := nlow
  have below : (n : ℚ) / d < 2 ^ (guess + 1) := by
    rw [div_lt_iff₀ dq]
    calc (n : ℚ) < 2 ^ (n.log2 + 1 : ℤ) := nhigh
      _ = 2 ^ (guess + 1) * 2 ^ (d.log2 : ℤ) := by
          rw [← zpow_add₀ two_ne_zero]; congr 1; omega
      _ ≤ 2 ^ (guess + 1) * d := by gcongr
  split
  · rename_i low
    exact ⟨under, by simpa using test.mp low⟩
  · rename_i high
    exact ⟨le_of_not_gt fun low => high (test.mpr low), below⟩

/-! ## The nearest value of a positive fraction -/

/-- The exponent of the last bit that the value nearest to `q` keeps. -/
def unitOf (q : ℚ) : ℤ := unitExponent q.num.natAbs q.den

/-- The number of units that `q` rounds to. -/
def unitsOf (q : ℚ) : ℕ := unitCount q.num.natAbs q.den

section Positive

variable {q : ℚ}

theorem ratio_eq (positive : 0 < q) : ((q.num.natAbs : ℕ) : ℚ) / q.den = q := by
  have sign : 0 < q.num := Rat.num_pos.mpr positive
  have : ((q.num.natAbs : ℕ) : ℚ) = q.num := by
    rw [Nat.cast_natAbs, abs_of_pos sign]
  rw [this, Rat.num_div_den]

theorem natAbs_num_pos (positive : 0 < q) : 0 < q.num.natAbs :=
  Int.natAbs_pos.mpr (Rat.num_pos.mpr positive).ne'

theorem nearest_eq (positive : 0 < q) : nearest q = unitsOf q * 2 ^ unitOf q := by
  have sign : ¬ q.num < 0 := (Rat.num_pos.mpr positive).le.not_gt
  rw [nearest, if_neg sign, nearestRatio, if_neg (natAbs_num_pos positive).ne', scaled_eq]
  rfl

theorem unitsOf_eq (q : ℚ) : unitsOf q =
    roundHalfEven (q.num.natAbs * 2 ^ (-unitOf q).toNat) (q.den * 2 ^ (unitOf q).toNat) := rfl

theorem unitsOf_ratio (positive : 0 < q) :
    ((q.num.natAbs * 2 ^ (-unitOf q).toNat : ℕ) : ℚ) / ((q.den * 2 ^ (unitOf q).toNat : ℕ) : ℚ) =
      q / 2 ^ unitOf q := by
  rw [ratio_in_units, ratio_eq positive]

theorem scaledDen_pos (q : ℚ) : 0 < q.den * 2 ^ (unitOf q).toNat :=
  Nat.mul_pos q.den_pos (Nat.two_pow_pos _)

/-- The last bit kept is the one 52 places behind the first, but none below `2 ^ (-1074)`. -/
theorem unitOf_spec (positive : 0 < q) :
    -1074 ≤ unitOf q ∧ q < 2 ^ (unitOf q + 53) ∧
      (unitOf q = -1074 ∨ (2 : ℚ) ^ (unitOf q + 52) ≤ q) := by
  obtain ⟨low, high⟩ := binaryExponent_spec (natAbs_num_pos positive) q.den_pos
  rw [ratio_eq positive] at low high
  unfold unitOf unitExponent
  generalize binaryExponent q.num.natAbs q.den = e at *
  refine ⟨le_max_right _ _, lt_of_lt_of_le high ?_, ?_⟩
  · exact zpow_le_zpow_right₀ one_le_two (by omega)
  · rcases le_total (e - 52) (-1074) with small | large
    · exact .inl (max_eq_right small)
    · right
      rw [max_eq_left large, sub_add_cancel]
      exact low

theorem abs_unitsOf_sub_le (positive : 0 < q) : |(unitsOf q : ℚ) - q / 2 ^ unitOf q| ≤ 1 / 2 := by
  rw [unitsOf_eq, ← unitsOf_ratio positive]
  exact (roundHalfEven_spec (scaledDen_pos q)).1

theorem unitsOf_le (positive : 0 < q) {k : ℕ} (le : q ≤ k * 2 ^ unitOf q) : unitsOf q ≤ k := by
  rw [unitsOf_eq]
  apply roundHalfEven_le (scaledDen_pos q)
  rw [unitsOf_ratio positive]
  exact (div_le_iff₀ (by positivity)).mpr le

theorem le_unitsOf (positive : 0 < q) {k : ℕ} (le : k * 2 ^ unitOf q ≤ q) : k ≤ unitsOf q := by
  rw [unitsOf_eq]
  apply le_roundHalfEven (scaledDen_pos q)
  rw [unitsOf_ratio positive]
  exact (le_div_iff₀ (by positivity)).mpr le

/-- A representable value is a whole number of units of `q`, or lies within the
power of two below `q`. -/
theorem Representable.units_or_small {r : ℚ} (representable : Representable r)
    (positive : 0 < q) :
    (∃ k : ℕ, r = k * 2 ^ unitOf q) ∨
      (r ≤ 2 ^ (unitOf q + 52) ∧ (2 : ℚ) ^ (unitOf q + 52) ≤ q) := by
  obtain ⟨m, e, bits, least, rfl⟩ := representable
  obtain ⟨-, -, subnormal | normal⟩ := unitOf_spec positive
  · exact .inl ⟨_, units_of_le m (by omega)⟩
  · rcases le_or_gt (unitOf q) e with large | small
    · exact .inl ⟨_, units_of_le m large⟩
    · right
      refine ⟨?_, normal⟩
      calc (m : ℚ) * 2 ^ e ≤ 2 ^ (53 : ℤ) * 2 ^ e := by gcongr; exact_mod_cast bits
        _ = 2 ^ (e + 53) := by rw [← zpow_add₀ two_ne_zero]; congr 1; omega
        _ ≤ 2 ^ (unitOf q + 52) := zpow_le_zpow_right₀ one_le_two (by omega)

end Positive

/-! ## The laws -/

@[simp] theorem nearest_zero : nearest 0 = 0 := rfl

theorem nearest_nonneg {q : ℚ} (nonneg : 0 ≤ q) : 0 ≤ nearest q := by
  rcases nonneg.eq_or_lt with rfl | positive
  · simp
  · rw [nearest_eq positive]
    positivity

/-- A representable value above a fraction stays above it. -/
theorem nearest_le {q r : ℚ} (nonneg : 0 ≤ q) (representable : Representable r) (le : q ≤ r) :
    nearest q ≤ r := by
  rcases nonneg.eq_or_lt with rfl | positive
  · simpa using representable.nonneg
  rw [nearest_eq positive]
  rcases representable.units_or_small positive with ⟨k, rfl⟩ | ⟨small, normal⟩
  · gcongr
    exact unitsOf_le positive le
  · -- Here `r` is the power of two below `q`, which is a whole number of units.
    have equal : r = (2 ^ 52 : ℕ) * 2 ^ unitOf q := by
      rw [← two_zpow_add_52]
      exact le_antisymm small (normal.trans le)
    rw [equal] at le ⊢
    gcongr
    exact unitsOf_le positive le

/-- A representable value below a fraction stays below it. -/
theorem le_nearest {q r : ℚ} (representable : Representable r) (le : r ≤ q) :
    r ≤ nearest q := by
  rcases (representable.nonneg.trans le).eq_or_lt with rfl | positive
  · simpa using le
  rw [nearest_eq positive]
  rcases representable.units_or_small positive with ⟨k, rfl⟩ | ⟨small, normal⟩
  · gcongr
    exact le_unitsOf positive le
  · rw [two_zpow_add_52] at small normal
    refine small.trans ?_
    gcongr
    exact le_unitsOf positive normal

/-- A representable value is its own nearest value. -/
theorem nearest_of_representable {r : ℚ} (representable : Representable r) : nearest r = r :=
  le_antisymm (nearest_le representable.nonneg representable le_rfl)
    (le_nearest representable le_rfl)

/-- What a fraction is rounded to is representable. -/
theorem representable_nearest {q : ℚ} (nonneg : 0 ≤ q) : Representable (nearest q) := by
  rcases nonneg.eq_or_lt with rfl | positive
  · exact ⟨0, 0, by norm_num, by norm_num, by simp⟩
  obtain ⟨least, high, -⟩ := unitOf_spec positive
  refine ⟨unitsOf q, unitOf q, unitsOf_le positive ?_, least, nearest_eq positive⟩
  rw [add_comm, zpow_add₀ two_ne_zero] at high
  exact_mod_cast high.le

/-- Rounding keeps the order.  In one binade it is the order of the counts of
units; otherwise a power of two lies between the two fractions. -/
theorem nearest_mono {p q : ℚ} (nonneg : 0 ≤ p) (le : p ≤ q) : nearest p ≤ nearest q := by
  rcases nonneg.eq_or_lt with rfl | positive
  · simpa using nearest_nonneg le
  have positive' : 0 < q := positive.trans_le le
  obtain ⟨leastp, highp, -⟩ := unitOf_spec positive
  obtain ⟨leastq, highq, lowq⟩ := unitOf_spec positive'
  rcases lt_trichotomy (unitOf p) (unitOf q) with below | same | above
  · have normal := lowq.resolve_left (by omega)
    have power : Representable ((2 : ℚ) ^ (unitOf q + 52)) := .two_zpow (by omega)
    have between : p ≤ 2 ^ (unitOf q + 52) :=
      highp.le.trans (zpow_le_zpow_right₀ one_le_two (by omega))
    exact (nearest_le nonneg power between).trans (le_nearest power normal)
  · rw [nearest_eq positive, nearest_eq positive', same]
    gcongr
    rw [unitsOf_eq, unitsOf_eq]
    apply roundHalfEven_mono (scaledDen_pos p) (scaledDen_pos q)
    rw [unitsOf_ratio positive, unitsOf_ratio positive', same]
    gcongr
  · obtain ⟨-, -, lowp⟩ := unitOf_spec positive
    have normal := lowp.resolve_left (by omega)
    have order : q < p := highq.trans_le
      ((zpow_le_zpow_right₀ one_le_two (by omega)).trans normal)
    exact absurd le order.not_ge

/-- Above the subnormal range rounding moves a fraction by at most one part in `2 ^ 53`. -/
theorem abs_nearest_sub_le {q : ℚ} (normal : 2 ^ (-1022 : ℤ) ≤ q) :
    |nearest q - q| ≤ q / 2 ^ 53 := by
  have positive : 0 < q := (by positivity : (0 : ℚ) < 2 ^ (-1022 : ℤ)).trans_le normal
  have unit : (2 : ℚ) ^ (unitOf q + 52) ≤ q := by
    obtain ⟨-, -, subnormal | low⟩ := unitOf_spec positive
    · rw [subnormal]
      exact normal
    · exact low
  have factored : nearest q - q = (unitsOf q - q / 2 ^ unitOf q) * 2 ^ unitOf q := by
    rw [nearest_eq positive]
    field_simp
  rw [factored, abs_mul, abs_of_pos (by positivity : (0 : ℚ) < 2 ^ unitOf q)]
  calc |(unitsOf q : ℚ) - q / 2 ^ unitOf q| * 2 ^ unitOf q ≤ 1 / 2 * 2 ^ unitOf q := by
        gcongr
        exact abs_unitsOf_sub_le positive
    _ = 2 ^ (unitOf q + 52) / 2 ^ 53 := by
        rw [zpow_add₀ two_ne_zero, ← zpow_natCast]
        norm_num
        ring
    _ ≤ q / 2 ^ 53 := by gcongr

end Darkroom.Number
