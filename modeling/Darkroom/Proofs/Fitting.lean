/-
# Darkroom.Proofs.Fitting -- fitting stays in the box and never enlarges

Which side of the box is the tight one is decided on two rounded ratios.  Ratios
of whole sides below `2 ^ 31` that differ at all differ by more than the rounding
can hide (`nearest_div_lt`), so the tight side is shorter than that of the
source.  The other side then follows from a ratio that is off by at most one part
in `2 ^ 53`, less than the one pixel that the tight side is shorter by
(`div_nearest_le`, `mul_nearest_le`), so it is not longer than in the source.

That it stays in the box as well is the decision read back: a ratio that the
rounded ratio of the box is below is not below the exact one (`div_le_of_nearest_lt`),
and one that it is not below is above the exact one by the rounding at most
(`mul_le_of_le_nearest`).
-/
import Darkroom.Proofs.Halves
import Darkroom.Step

namespace Darkroom

set_option autoImplicit false

open Number

namespace Number

/-- The ratio of two whole sides, rounded, from below and from above. -/
theorem nearest_div_bounds {m n : ℕ} (m0 : 0 < m) (n0 : 0 < n) (small : n < 2 ^ 31) :
    (m : ℚ) / n * (1 - 1 / 2 ^ 53) ≤ nearest ((m : ℚ) / n) ∧
      nearest ((m : ℚ) / n) ≤ (m : ℚ) / n * (1 + 1 / 2 ^ 53) := by
  have near := abs_le.mp (abs_nearest_sub_le (two_zpow_le_ratio m0 n0 (by omega)))
  constructor
  · linarith [near.1]
  · linarith [near.2]

/-- A box that is narrower than the source and no lower has the smaller ratio,
and rounding does not hide it. -/
theorem nearest_div_lt {sw sh mw mh : ℕ} (sh0 : 0 < sh) (narrow : sw < 2 ^ 31) (low : sh < 2 ^ 31)
    (lt : mw < sw) (le : sh ≤ mh) :
    nearest ((mw : ℚ) / mh) < nearest ((sw : ℚ) / sh) := by
  have sh1 : (0 : ℚ) < sh := by exact_mod_cast sh0
  have sw0 : 0 < sw := by omega
  have sw1 : (0 : ℚ) < sw := by exact_mod_cast sw0
  have step : (mw : ℚ) ≤ sw - 1 := by
    have : (mw : ℚ) + 1 ≤ sw := by exact_mod_cast lt
    linarith
  have tall : (sh : ℚ) ≤ mh := by exact_mod_cast le
  have wide : (sw : ℚ) ≤ 2 ^ 31 := by exact_mod_cast narrow.le
  have ratio : (mw : ℚ) / mh ≤ ((sw - 1 : ℕ) : ℚ) / sh := by
    rw [Nat.cast_pred sw0]
    exact div_le_div₀ (by linarith [(Nat.cast_nonneg mw : (0 : ℚ) ≤ mw)]) step sh1 tall
  refine (nearest_mono (by positivity) ratio).trans_lt ?_
  obtain ⟨below, -⟩ := nearest_div_bounds sw0 sh0 low
  refine lt_of_lt_of_le ?_ below
  rcases Nat.eq_zero_or_pos (sw - 1) with one | more
  · rw [one, Nat.cast_zero, zero_div, nearest_zero]
    have : (0 : ℚ) < 1 - 1 / 2 ^ 53 := by norm_num
    positivity
  · obtain ⟨-, above⟩ := nearest_div_bounds more sh0 low
    refine above.trans_lt ?_
    rw [Nat.cast_pred sw0, div_mul_eq_mul_div, div_mul_eq_mul_div]
    gcongr ?_ / _
    linarith

/-- One side of a box over the rounded ratio of the source, when that side is
shorter than the source's. -/
theorem div_nearest_le {sw sh mw : ℕ} (sh0 : 0 < sh) (narrow : sw < 2 ^ 31) (low : sh < 2 ^ 31)
    (lt : mw < sw) : (mw : ℚ) / nearest ((sw : ℚ) / sh) ≤ sh := by
  have sh1 : (0 : ℚ) < sh := by exact_mod_cast sh0
  have sw0 : 0 < sw := by omega
  have step : (mw : ℚ) + 1 ≤ sw := by exact_mod_cast lt
  have wide : (sw : ℚ) ≤ 2 ^ 31 := by exact_mod_cast narrow.le
  obtain ⟨below, -⟩ := nearest_div_bounds sw0 sh0 low
  have ratio : 0 < (sw : ℚ) / sh * (1 - 1 / 2 ^ 53) := by
    have : (0 : ℚ) < 1 - 1 / 2 ^ 53 := by norm_num
    positivity
  rw [div_le_iff₀ (ratio.trans_le below)]
  calc (mw : ℚ) ≤ sw * (1 - 1 / 2 ^ 53) := by linarith
    _ = sh * (sw / sh * (1 - 1 / 2 ^ 53)) := by field_simp
    _ ≤ sh * nearest (sw / sh) := by gcongr

/-- One side of a box times the rounded ratio of the source, when that side is
shorter than the source's. -/
theorem mul_nearest_le {sw sh mh : ℕ} (sw0 : 0 < sw) (low : sh < 2 ^ 31)
    (lt : mh < sh) : (mh : ℚ) * nearest ((sw : ℚ) / sh) ≤ sw := by
  have sh0 : 0 < sh := by omega
  have sh1 : (0 : ℚ) < sh := by exact_mod_cast sh0
  have step : (mh : ℚ) + 1 ≤ sh := by exact_mod_cast lt
  have tall : (sh : ℚ) ≤ 2 ^ 31 := by exact_mod_cast low.le
  obtain ⟨-, above⟩ := nearest_div_bounds sw0 sh0 low
  calc (mh : ℚ) * nearest (sw / sh) ≤ mh * (sw / sh * (1 + 1 / 2 ^ 53)) := by gcongr
    _ = sw * (mh * (1 + 1 / 2 ^ 53) / sh) := by field_simp
    _ ≤ sw * 1 := by
        gcongr
        rw [div_le_one sh1]
        linarith
    _ = sw := mul_one _

/-- A ratio that a rounded one is below is not below the exact one. -/
theorem div_le_of_nearest_lt {mw mh : ℕ} (mh0 : 0 < mh) {ratio : ℚ} (positive : 0 < ratio)
    (representable : Representable ratio) (lt : nearest ((mw : ℚ) / mh) < ratio) :
    (mw : ℚ) / ratio ≤ mh := by
  have mh1 : (0 : ℚ) < mh := by exact_mod_cast mh0
  have le : (mw : ℚ) / mh ≤ ratio := by
    by_contra above
    exact (le_nearest representable (le_of_not_ge above)).not_gt lt
  rw [div_le_iff₀ mh1] at le
  rw [div_le_iff₀ positive]
  linarith

/-- A ratio that is not above a rounded one is hardly above the exact one. -/
theorem mul_le_of_le_nearest {mw mh : ℕ} (mw0 : 0 < mw) (mh0 : 0 < mh) (short : mw < 2 ^ 31)
    (flat : mh < 2 ^ 31) {ratio : ℚ} (le : ratio ≤ nearest ((mw : ℚ) / mh)) :
    (mh : ℚ) * ratio ≤ mw + 1 / 4 := by
  have size : (mw : ℚ) ≤ 2 ^ 31 := by exact_mod_cast short.le
  have mh1 : (0 : ℚ) < mh := by exact_mod_cast mh0
  obtain ⟨-, above⟩ := nearest_div_bounds mw0 mh0 flat
  calc (mh : ℚ) * ratio ≤ mh * (mw / mh * (1 + 1 / 2 ^ 53)) := by
        gcongr
        exact le.trans above
    _ = mw * (1 + 1 / 2 ^ 53) := by field_simp
    _ ≤ mw + 1 / 4 := by linarith

theorem nearest_div_pos {m n : ℕ} (m0 : 0 < m) (n0 : 0 < n) (small : n < 2 ^ 31) :
    0 < nearest ((m : ℚ) / n) := by
  have shrink : (0 : ℚ) < 1 - 1 / 2 ^ 53 := by norm_num
  exact lt_of_lt_of_le (by positivity) (nearest_div_bounds m0 n0 small).1

section Box

variable {sw sh mw mh : ℕ} {n : ℤ}

/-- Where the width of the box is the tight side it is shorter than that of the source. -/
theorem width_lt_of_tight (mh0 : 0 < mh) (outside : ¬(sw ≤ mw ∧ sh ≤ mh))
    (tight : nearest ((mw : ℚ) / mh) < nearest ((sw : ℚ) / sh)) : mw < sw := by
  by_contra wide
  have flat : mh < sh := by omega
  have order : (sw : ℚ) / sh ≤ mw / mh :=
    div_le_div₀ (by positivity) (by exact_mod_cast Nat.le_of_not_lt wide)
      (by exact_mod_cast mh0) (by exact_mod_cast flat.le)
  exact (nearest_mono (by positivity) order).not_gt tight

/-- Else the height is: a box no lower than the source would have the smaller ratio. -/
theorem height_lt_of_loose (sh0 : 0 < sh) (narrow : sw < 2 ^ 31) (low : sh < 2 ^ 31)
    (outside : ¬(sw ≤ mw ∧ sh ≤ mh))
    (loose : nearest ((sw : ℚ) / sh) ≤ nearest ((mw : ℚ) / mh)) : mh < sh := by
  by_contra tall
  exact (nearest_div_lt sh0 narrow low (by omega) (by omega)).not_ge loose

/-- The height that follows from a tight width. -/
theorem height_of_tight (sw0 : 0 < sw) (sh0 : 0 < sh) (narrow : sw < 2 ^ 31) (low : sh < 2 ^ 31)
    (mh0 : 0 < mh) (outside : ¬(sw ≤ mw ∧ sh ≤ mh))
    (tight : nearest ((mw : ℚ) / mh) < nearest ((sw : ℚ) / sh))
    (found : truncate ((Double.ofExact false (mw / nearest ((sw : ℚ) / sh))).add
      (.ofRat (1 / 2))) = .ok n) : n ≤ sh ∧ n ≤ mh := by
  have positive := nearest_div_pos sw0 sh0 low
  have source : n ≤ sh := by
    have within := div_nearest_le sh0 narrow low (width_lt_of_tight mh0 outside tight)
    exact truncate_ofExact_le (by positivity) (by linarith) (by omega) found
  refine ⟨source, ?_⟩
  rcases le_or_gt sh mh with tall | flat
  · omega
  · have within :=
      div_le_of_nearest_lt mh0 positive (representable_nearest (by positivity)) tight
    exact truncate_ofExact_le (by positivity) (by linarith) (by omega) found

/-- The width that follows from a tight height. -/
theorem width_of_loose (sw0 : 0 < sw) (sh0 : 0 < sh) (narrow : sw < 2 ^ 31) (low : sh < 2 ^ 31)
    (mw0 : 0 < mw) (mh0 : 0 < mh) (outside : ¬(sw ≤ mw ∧ sh ≤ mh))
    (loose : nearest ((sw : ℚ) / sh) ≤ nearest ((mw : ℚ) / mh))
    (found : truncate ((Double.ofExact false (mh * nearest ((sw : ℚ) / sh))).add
      (.ofRat (1 / 2))) = .ok n) : n ≤ sw ∧ n ≤ mw := by
  have positive := nearest_div_pos sw0 sh0 low
  have lower : mh < sh := height_lt_of_loose sh0 narrow low outside loose
  have source : n ≤ sw := by
    have within := mul_nearest_le sw0 low lower
    exact truncate_ofExact_le (by positivity) (by linarith) (by omega) found
  refine ⟨source, ?_⟩
  rcases le_or_gt sw mw with wide | short
  · omega
  · have within := mul_le_of_le_nearest mw0 mh0 (by omega) (by omega) loose
    exact truncate_ofExact_le (by positivity) within (by omega) found

end Box

end Number

/-- A source is left alone only inside the box. -/
theorem Step.fitSides_none {sw sh mw mh : ℕ}
    (fits : fitSides sw sh (.int mw) (.int mh) = .ok none) : sw ≤ mw ∧ sh ≤ mh := by
  by_contra outside
  rw [fitSides, Number.le_natCast, Number.le_natCast, ← Bool.decide_and, decide_eq_false outside]
    at fits
  simp only [Bool.false_eq_true, if_false, Outcome.pure_eq, Outcome.ofArithmetic_eq_ok] at fits
  obtain ⟨ratio, -, fits⟩ := Outcome.bind_eq_ok.mp fits
  obtain ⟨box, -, fits⟩ := Outcome.bind_eq_ok.mp fits
  split_ifs at fits
  all_goals
    obtain ⟨x, -, fits⟩ := Outcome.bind_eq_ok.mp fits
    obtain ⟨side, -, impossible⟩ := Outcome.bind_eq_ok.mp fits
    cases impossible

/-- A source inside the box is left alone. -/
theorem Step.fitSides_inside {sw sh mw mh : ℕ} (inside : sw ≤ mw ∧ sh ≤ mh) :
    fitSides sw sh (.int mw) (.int mh) = .ok none := by
  rw [fitSides, Number.le_natCast, Number.le_natCast, ← Bool.decide_and, decide_eq_true inside]
  rfl

/-- Of any other source the tight side of the box is kept, and the other one follows
from the rounded ratio of the source. -/
theorem Step.fitSides_outside {sw sh mw mh : ℕ} (sw0 : 0 < sw) (sh0 : 0 < sh) (narrow : sw < 2 ^ 31)
    (low : sh < 2 ^ 31) (mh0 : 0 < mh) (short : mw < 2 ^ 31) (flat : mh < 2 ^ 31)
    (outside : ¬(sw ≤ mw ∧ sh ≤ mh)) :
    fitSides sw sh (.int mw) (.int mh) = .ok (some (
      if nearest ((mw : ℚ) / mh) < nearest ((sw : ℚ) / sh) then
        (.int mw, .int (max 1 (halfUp (nearest (mw / nearest ((sw : ℚ) / sh))))))
      else (.int (max 1 (halfUp (nearest (mh * nearest ((sw : ℚ) / sh))))), .int mh))) := by
  rw [fitSides, Number.le_natCast, Number.le_natCast, ← Bool.decide_and]
  have ratio := Number.div_le_largestDouble sh0 (narrow.le.trans (by norm_num) : sw ≤ 2 ^ 53)
  have box := Number.div_le_largestDouble mh0 (short.le.trans (by norm_num) : mw ≤ 2 ^ 53)
  have positive := Number.nearest_div_pos sw0 sh0 low
  simp only [decide_eq_false outside, Bool.false_eq_true, if_false, Outcome.ok_bind,
    Number.div_natCast_of_le sh0 ratio, Number.div_natCast_of_le mh0 box, Double.lt_finite]
  by_cases tight : nearest ((mw : ℚ) / mh) < nearest ((sw : ℚ) / sh)
  · have within := Number.div_nearest_le sh0 narrow low (Number.width_lt_of_tight mh0 outside tight)
    have rounded := Number.truncate_ofExact (by positivity) within (by omega)
    simp only [tight, decide_true, if_true, Number.div_real (by omega : mw ≤ 2 ^ 53) positive,
      Outcome.ok_bind, rounded]
    rfl
  · have lower := Number.height_lt_of_loose sh0 narrow low outside (le_of_not_gt tight)
    have within := Number.mul_nearest_le sw0 low lower
    have rounded := Number.truncate_ofExact (by positivity) within (by omega)
    simp only [tight, decide_false, Bool.false_eq_true, if_false, Outcome.ok_bind,
      Number.toDouble_natCast (by omega : mh ≤ 2 ^ 53), Number.mul_finite positive.le, rounded]
    rfl

/-- Sides of an ordinary size can be fitted. -/
theorem Step.fitSides_found {sw sh mw mh : ℕ} (sw0 : 0 < sw) (sh0 : 0 < sh) (narrow : sw < 2 ^ 31)
    (low : sh < 2 ^ 31) (mh0 : 0 < mh) (short : mw < 2 ^ 31) (flat : mh < 2 ^ 31) :
    ∃ sides, fitSides sw sh (.int mw) (.int mh) = .ok sides := by
  by_cases inside : sw ≤ mw ∧ sh ≤ mh
  · exact ⟨none, fitSides_inside inside⟩
  · exact ⟨_, fitSides_outside sw0 sh0 narrow low mh0 short flat inside⟩

/-- Fitting never makes a side longer than it is in the box or in the source. -/
theorem Step.fitSides_le {sw sh mw mh : ℕ} (sw0 : 0 < sw) (sh0 : 0 < sh) (narrow : sw < 2 ^ 31)
    (low : sh < 2 ^ 31) (mw0 : 0 < mw) (mh0 : 0 < mh) {a b : Number}
    (fits : fitSides sw sh (.int mw) (.int mh) = .ok (some (a, b))) :
    ∃ w h : ℤ, a = .int w ∧ b = .int h ∧ (1 ≤ w ∧ w ≤ sw ∧ w ≤ mw) ∧
      1 ≤ h ∧ h ≤ sh ∧ h ≤ mh := by
  rw [fitSides, Number.le_natCast, Number.le_natCast, ← Bool.decide_and] at fits
  by_cases inside : sw ≤ mw ∧ sh ≤ mh
  · rw [decide_eq_true inside] at fits
    exact absurd (Except.ok.inj fits) (by simp)
  simp only [decide_eq_false inside, Bool.false_eq_true, if_false, Outcome.pure_eq,
    Outcome.ofArithmetic_eq_ok] at fits
  obtain ⟨ratio, foundRatio, rest⟩ := Outcome.bind_eq_ok.mp fits
  obtain ⟨box, foundBox, rest⟩ := Outcome.bind_eq_ok.mp rest
  rw [Number.div_natCast_eq_ok sh0 foundRatio, Number.div_natCast_eq_ok mh0 foundBox,
    Double.lt_finite] at rest
  have positive := Number.nearest_div_pos sw0 sh0 low
  by_cases tight : nearest ((mw : ℚ) / mh) < nearest ((sw : ℚ) / sh)
  · have narrower := Number.width_lt_of_tight mh0 inside tight
    rw [if_pos (decide_eq_true tight)] at rest
    obtain ⟨x, quotient, rest⟩ := Outcome.bind_eq_ok.mp rest
    obtain ⟨other, foundOther, result⟩ := Outcome.bind_eq_ok.mp rest
    obtain ⟨n, truncated, made⟩ := Outcome.bind_eq_ok.mp foundOther
    rw [Number.div_real_eq_ok (by omega) positive quotient] at truncated
    have height := Number.height_of_tight sw0 sh0 narrow low mh0 inside tight truncated
    obtain ⟨rfl, rfl⟩ := Prod.mk.inj (Option.some.inj (Except.ok.inj result))
    exact ⟨mw, max 1 n, rfl, (Except.ok.inj made).symm, by omega, by omega⟩
  · have loose := le_of_not_gt tight
    have lower := Number.height_lt_of_loose sh0 narrow low inside loose
    rw [if_neg (by simpa using tight)] at rest
    obtain ⟨x, foundHeight, rest⟩ := Outcome.bind_eq_ok.mp rest
    obtain ⟨other, foundOther, result⟩ := Outcome.bind_eq_ok.mp rest
    obtain ⟨n, truncated, made⟩ := Outcome.bind_eq_ok.mp foundOther
    rw [Number.toDouble_natCast (by omega)] at foundHeight
    rw [← Except.ok.inj foundHeight, Number.mul_finite positive.le] at truncated
    have width := Number.width_of_loose sw0 sh0 narrow low mw0 mh0 inside loose truncated
    obtain ⟨rfl, rfl⟩ := Prod.mk.inj (Option.some.inj (Except.ok.inj result))
    exact ⟨max 1 n, mh, (Except.ok.inj made).symm, rfl, by omega, by omega⟩

end Darkroom
