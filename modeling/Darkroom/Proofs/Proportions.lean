/-
# Darkroom.Proofs.Proportions -- a fitted picture keeps its proportions

Fitting compares two rounded ratios to find the tight side of the box, and takes the
other side from a rounded ratio a second time.  For sides up to `2 ^ 24` it comes to
what exact numbers would:

* two ratios of such sides that differ are a whole unit of their common denominator
  apart, so the rounded ones compare as the products do (`nearest_div_lt_iff`);
* the ratio and its quotient or product with a side are three roundings at the most
  away from the exact proportion, an eighth of a unit of its denominator
  (`div_nearest_near`, `mul_nearest_near`), and `halfUp_near` does not see that.

`FitsBox` is the law that comes out of it.  Which side is the tight one is said in whole
numbers, and it reads the same when the two sides are exchanged (`FitsBox.swap`).
-/
import Darkroom.Proofs.Halves
import Darkroom.Proofs.Running

namespace Darkroom

set_option autoImplicit false

open Number

/-- A side that a picture has in practice. -/
structure Ordinary (side : ℕ) : Prop where
  one_le : 1 ≤ side
  le : side ≤ 2 ^ 24

/-- A whole number of pixels next to a ratio: a half away at the most, or one for a
ratio that is less than that. -/
def Rounds (n a b : ℕ) : Prop :=
  |(n : ℚ) - a / b| ≤ 1 / 2 ∨ n = 1 ∧ (a : ℚ) / b ≤ 1 / 2

/-! ## Two roundings -/

namespace Number

section Roundings

variable {sw sh mw mh : ℕ}

theorem mul_le_two_pow_48 {m n : ℕ} (first : Ordinary m) (second : Ordinary n) :
    m * n ≤ 2 ^ 48 :=
  (Nat.mul_le_mul first.le second.le).trans_eq (by norm_num)

/-- Rounded ratios of ordinary sides are told apart whenever the exact ones are. -/
theorem nearest_div_lt_iff (width : Ordinary sw) (height : Ordinary sh) (boxWidth : Ordinary mw)
    (boxHeight : Ordinary mh) :
    nearest ((mw : ℚ) / mh) < nearest ((sw : ℚ) / sh) ↔ mw * sh < mh * sw := by
  have sh0 : (0 : ℚ) < sh := by exact_mod_cast height.one_le
  have mh0 : (0 : ℚ) < mh := by exact_mod_cast boxHeight.one_le
  constructor
  · intro lt
    by_contra not_
    have products : ((mh * sw : ℕ) : ℚ) ≤ (mw * sh : ℕ) := by exact_mod_cast Nat.le_of_not_lt not_
    have ratios : (sw : ℚ) / sh ≤ mw / mh := by
      rw [div_le_div_iff₀ sh0 mh0]
      push_cast at products
      linarith
    exact (nearest_mono (by positivity) ratios).not_gt lt
  · intro lt
    have := height.le
    have := boxHeight.le
    obtain ⟨-, above⟩ := nearest_div_bounds boxWidth.one_le boxHeight.one_le (by omega : mh < 2 ^ 31)
    obtain ⟨below, -⟩ := nearest_div_bounds width.one_le height.one_le (by omega : sh < 2 ^ 31)
    refine above.trans_lt (lt_of_lt_of_le ?_ below)
    -- A unit of the common denominator is more than the two roundings together.
    have unit : ((mw * sh : ℕ) : ℚ) + 1 ≤ (mh * sw : ℕ) := by exact_mod_cast lt
    have size : ((mh * sw : ℕ) : ℚ) ≤ 2 ^ 48 := by
      exact_mod_cast mul_le_two_pow_48 boxHeight width
    push_cast at unit size
    rw [div_mul_eq_mul_div, div_mul_eq_mul_div, div_lt_div_iff₀ mh0 sh0]
    linarith

/-- A value that is two roundings away from a ratio may be rounded a third time. -/
theorem nearest_near {x : ℚ} {a b : ℕ} (b0 : 0 < b) (small : a ≤ 2 ^ 48)
    (normal : (2 : ℚ) ^ (-1022 : ℤ) ≤ x) (near : |x * b - a| ≤ a / 2 ^ 52) :
    |nearest x * b - a| ≤ 1 / 8 := by
  have b1 : (0 : ℚ) < b := by exact_mod_cast b0
  have size : (a : ℚ) ≤ 2 ^ 48 := by exact_mod_cast small
  have moved : |nearest x * b - x * b| ≤ x * b / 2 ^ 53 := by
    rw [← sub_mul, abs_mul, abs_of_pos b1, mul_div_right_comm]
    exact mul_le_mul_of_nonneg_right (abs_nearest_sub_le normal) b1.le
  have bounds := abs_le.mp near
  calc |nearest x * b - a| ≤ |nearest x * b - x * b| + |x * b - a| := abs_sub_le _ _ _
    _ ≤ 1 / 8 := by linarith

/-- A ratio of ordinary sides is far from both ends of the range. -/
theorem nearest_div_range (width : Ordinary sw) (height : Ordinary sh) :
    (2 : ℚ) ^ (-24 : ℤ) ≤ nearest ((sw : ℚ) / sh) ∧ nearest ((sw : ℚ) / sh) ≤ 2 ^ (24 : ℤ) := by
  have sw1 : (1 : ℚ) ≤ sw := by exact_mod_cast width.one_le
  have sh1 : (1 : ℚ) ≤ sh := by exact_mod_cast height.one_le
  have wide : (sw : ℚ) ≤ 2 ^ 24 := by exact_mod_cast width.le
  have tall : (sh : ℚ) ≤ 2 ^ 24 := by exact_mod_cast height.le
  constructor
  · refine le_nearest (.two_zpow (by norm_num)) ?_
    rw [zpow_neg, ← one_div]
    exact div_le_div₀ (by linarith) sw1 (by linarith) (by exact_mod_cast tall)
  · refine nearest_le (by positivity) (.two_zpow (by norm_num)) ?_
    exact (div_le_self (by linarith) sh1).trans (by exact_mod_cast wide)

/-- A side of a box over the rounded ratio of the source, rounded. -/
theorem div_nearest_near (width : Ordinary sw) (height : Ordinary sh) (box : Ordinary mw) :
    |nearest (mw / nearest ((sw : ℚ) / sh)) * sw - (mw * sh : ℕ)| ≤ 1 / 8 := by
  have mw1 : (1 : ℚ) ≤ mw := by exact_mod_cast box.one_le
  have := height.le
  obtain ⟨low, high⟩ := nearest_div_range width height
  have moved := nearest_div_mul_sub_le (a := sw) height.one_le (by omega : sh ≤ 2 ^ 53)
  generalize nearest ((sw : ℚ) / sh) = ratio at *
  have positive : 0 < ratio := (by positivity : (0 : ℚ) < 2 ^ (-24 : ℤ)).trans_le low
  refine nearest_near width.one_le (mul_le_two_pow_48 box height) ?_ ?_
  · calc (2 : ℚ) ^ (-1022 : ℤ) ≤ 2 ^ (-24 : ℤ) := zpow_le_zpow_right₀ one_le_two (by norm_num)
      _ = 1 / 2 ^ (24 : ℤ) := by rw [zpow_neg, one_div]
      _ ≤ mw / ratio := div_le_div₀ (by linarith) mw1 positive high
  · have twice : (sw : ℚ) ≤ 2 * (ratio * sh) := by
      have sw0 : (0 : ℚ) ≤ sw := Nat.cast_nonneg sw
      linarith [(abs_le.mp moved).1]
    calc |(mw / ratio * sw - (mw * sh : ℕ) : ℚ)| = mw / ratio * |sw - ratio * sh| := by
          rw [← abs_of_nonneg (by positivity : 0 ≤ mw / ratio), ← abs_mul,
            abs_of_nonneg (by positivity : 0 ≤ mw / ratio), mul_sub, ← mul_assoc,
            div_mul_cancel₀ _ positive.ne', Nat.cast_mul]
      _ ≤ mw / ratio * (2 * (ratio * sh) / 2 ^ 53) := by
          rw [abs_sub_comm]
          gcongr
          exact moved.trans (by gcongr)
      _ = (mw * sh : ℕ) / 2 ^ 52 := by
          push_cast
          field_simp

/-- A side of a box times the rounded ratio of the source, rounded. -/
theorem mul_nearest_near (width : Ordinary sw) (height : Ordinary sh) (box : Ordinary mh) :
    |nearest (mh * nearest ((sw : ℚ) / sh)) * sh - (mh * sw : ℕ)| ≤ 1 / 8 := by
  have mh1 : (1 : ℚ) ≤ mh := by exact_mod_cast box.one_le
  have := height.le
  obtain ⟨low, -⟩ := nearest_div_range width height
  have moved := nearest_div_mul_sub_le (a := sw) height.one_le (by omega : sh ≤ 2 ^ 53)
  generalize nearest ((sw : ℚ) / sh) = ratio at *
  have positive : 0 < ratio := (by positivity : (0 : ℚ) < 2 ^ (-24 : ℤ)).trans_le low
  refine nearest_near height.one_le (mul_le_two_pow_48 box width) ?_ ?_
  · calc (2 : ℚ) ^ (-1022 : ℤ) ≤ 2 ^ (-24 : ℤ) := zpow_le_zpow_right₀ one_le_two (by norm_num)
      _ ≤ ratio := low
      _ ≤ mh * ratio := le_mul_of_one_le_left positive.le mh1
  · calc |(mh * ratio * sh - (mh * sw : ℕ) : ℚ)| = mh * |ratio * sh - sw| := by
          rw [Nat.cast_mul, mul_assoc, ← mul_sub, abs_mul, Nat.abs_cast]
      _ ≤ mh * (sw / 2 ^ 53) := by gcongr
      _ ≤ (mh * sw : ℕ) / 2 ^ 52 := by
          rw [Nat.cast_mul, mul_div_assoc]
          gcongr <;> norm_num

/-- A value near a ratio, rounded half up to a whole number of pixels. -/
theorem rounds_halfUp {x : ℚ} {a b : ℕ} (b0 : 0 < b) (small : a + b < 2 ^ 51) (nonneg : 0 ≤ x)
    (near : |x * b - a| ≤ 1 / 8) : Rounds (max 1 (halfUp x)).toNat a b := by
  have rounded := halfUp_near b0 small nonneg near
  obtain ⟨n, found⟩ := Int.eq_ofNat_of_zero_le (halfUp_nonneg nonneg)
  rw [found] at rounded ⊢
  rcases Nat.eq_zero_or_pos n with rfl | one_le
  · refine .inr ⟨rfl, ?_⟩
    have low := (abs_le.mp rounded).1
    push_cast at low
    linarith
  · rw [show (max 1 (n : ℤ)).toNat = n by omega]
    exact .inl (by exact_mod_cast rounded)

end Roundings

end Number

/-! ## The law of fitting -/

/-- A picture of `sw` by `sh` fitted into a box of `mw` by `mh` comes out as `w` by
`h`: inside the picture and the box, the tight side of the box kept, and the other
side the nearest whole number to the proportion, one at least. -/
structure FitsBox (sw sh mw mh w h : ℕ) : Prop where
  width : 1 ≤ w ∧ w ≤ min sw mw
  height : 1 ≤ h ∧ h ≤ min sh mh
  tightWidth : mw * sh < mh * sw → w = mw ∧ Rounds h (mw * sh) sw
  tightHeight : mh * sw < mw * sh → h = mh ∧ Rounds w (mh * sw) sh
  alike : mw * sh = mh * sw → w = mw ∧ h = mh

namespace FitsBox

variable {sw sh mw mh w h : ℕ}

/-- The law does not tell the two sides apart. -/
theorem swap (fits : FitsBox sw sh mw mh w h) : FitsBox sh sw mh mw h w where
  width := fits.height
  height := fits.width
  tightWidth := fits.tightHeight
  tightHeight := fits.tightWidth
  alike same := (fits.alike same.symm).symm

/-- One side of the box is kept in any case. -/
theorem keeps (fits : FitsBox sw sh mw mh w h) (sh0 : 0 < sh) :
    w = mw ∧ Rounds h (mw * sh) sw ∨ h = mh ∧ Rounds w (mh * sw) sh := by
  rcases lt_trichotomy (mw * sh) (mh * sw) with tight | same | loose
  · exact .inl (fits.tightWidth tight)
  · obtain ⟨rfl, rfl⟩ := fits.alike same
    refine .inr ⟨rfl, .inl ?_⟩
    have sh1 : (sh : ℚ) ≠ 0 := by exact_mod_cast sh0.ne'
    rw [← same, Nat.cast_mul, mul_div_cancel_right₀ _ sh1, sub_self, abs_zero]
    norm_num
  · exact .inr (fits.tightHeight loose)

end FitsBox

/-! ## The nearest whole number -/

namespace Rounds

variable {n a b : ℕ}

/-- Being a half away at the most, in whole numbers. -/
theorem near_iff (b0 : 0 < b) :
    |(n : ℚ) - a / b| ≤ 1 / 2 ↔ 2 * a ≤ 2 * (n * b) + b ∧ 2 * (n * b) ≤ 2 * a + b := by
  have b1 : (0 : ℚ) < b := by exact_mod_cast b0
  have scaled : |(n : ℚ) - a / b| ≤ 1 / 2 ↔ |(n * b - a : ℚ)| ≤ b / 2 := by
    rw [← mul_le_mul_iff_left₀ b1, ← abs_of_pos b1, ← abs_mul, abs_of_pos b1, sub_mul,
      div_mul_cancel₀ _ b1.ne', one_div_mul_eq_div]
  rw [scaled, abs_le, ← @Nat.cast_le ℚ, ← @Nat.cast_le ℚ]
  push_cast
  constructor
  · rintro ⟨low, high⟩
    exact ⟨by linarith, by linarith⟩
  · rintro ⟨low, high⟩
    exact ⟨by linarith, by linarith⟩

theorem small_iff (b0 : 0 < b) : (a : ℚ) / b ≤ 1 / 2 ↔ 2 * a ≤ b := by
  have b1 : (0 : ℚ) < b := by exact_mod_cast b0
  rw [div_le_div_iff₀ b1 two_pos, one_mul, mul_comm]
  exact_mod_cast Iff.rfl

theorem le_twice (b0 : 0 < b) (rounds : Rounds n a b) : 2 * a ≤ 2 * (n * b) + b := by
  rw [Rounds, near_iff b0, small_iff b0] at rounds
  rcases rounds with ⟨low, -⟩ | ⟨-, small⟩
  · exact low
  · omega

theorem twice_le (b0 : 0 < b) (rounds : Rounds n a b) :
    2 * (n * b) ≤ 2 * a + b ∨ n = 1 ∧ 2 * a ≤ b := by
  rw [Rounds, near_iff b0, small_iff b0] at rounds
  exact rounds.imp_left And.right

/-- Two whole numbers next to one ratio are at most one apart. -/
theorem le_succ {m : ℕ} (b0 : 0 < b) (first : Rounds m a b) (second : Rounds n a b) :
    m ≤ n + 1 := by
  rcases first.twice_le b0 with high | ⟨rfl, -⟩
  · have low := second.le_twice b0
    exact Nat.le_of_mul_le_mul_right (by linarith : m * b ≤ (n + 1) * b) b0
  · omega

/-- Next to a ratio that is no exact half there is one whole number only. -/
theorem eq_nearest (b0 : 0 < b) (one_le : 1 ≤ n) (noHalf : ∀ k, 2 * a ≠ (2 * k + 1) * b)
    (rounds : Rounds n a b) : n = max 1 (roundHalfUp a b) := by
  rw [Rounds, near_iff b0, small_iff b0] at rounds
  unfold roundHalfUp
  rcases rounds with ⟨low, high⟩ | ⟨rfl, small⟩
  · have strict : 2 * a < 2 * (n * b) + b :=
      low.lt_of_ne fun half => noHalf n (by rw [half]; ring)
    have : (2 * a + b) / (2 * b) = n :=
      Nat.div_eq_of_lt_le (by linarith) (by linarith)
    omega
  · have : (2 * a + b) / (2 * b) < 2 := Nat.div_lt_of_lt_mul (by omega)
    omega

/-- Next to a whole number there is that number only. -/
theorem eq_of_exact {m : ℕ} (b0 : 0 < b) (one_le : 1 ≤ n) (m1 : 1 ≤ m)
    (rounds : Rounds n (m * b) b) : n = m := by
  have noHalf (k : ℕ) : 2 * (m * b) ≠ (2 * k + 1) * b := by
    rw [← mul_assoc]
    intro half
    have := Nat.eq_of_mul_eq_mul_right b0 half
    omega
  have whole : roundHalfUp (m * b) b = m := Nat.div_eq_of_lt_le (by linarith) (by linarith)
  rw [rounds.eq_nearest b0 one_le noHalf, whole]
  omega

end Rounds

/-! ## Fitting -/

namespace Step

variable {r : Raster} {width height : Value} {sw sh mw mh : ℕ}

/-- The sides that fitting chooses obey the law. -/
theorem fitSides_fitsBox (ordWidth : Ordinary sw) (ordHeight : Ordinary sh)
    (boxWidth : Ordinary mw) (boxHeight : Ordinary mh) (outside : ¬(sw ≤ mw ∧ sh ≤ mh)) :
    ∃ w h : ℕ, fitSides sw sh (.int mw) (.int mh) = .ok (some (.int w, .int h)) ∧
      FitsBox sw sh mw mh w h := by
  obtain ⟨sw0, narrow⟩ := ordWidth
  obtain ⟨sh0, low⟩ := ordHeight
  obtain ⟨mw0, short⟩ := boxWidth
  obtain ⟨mh0, flat⟩ := boxHeight
  have chosen := fitSides_outside sw0 sh0 (by omega) (by omega) mh0 (by omega) (by omega) outside
  have decided := nearest_div_lt_iff ⟨sw0, narrow⟩ ⟨sh0, low⟩ ⟨mw0, short⟩ ⟨mh0, flat⟩
  have ratio := nearest_div_pos sw0 sh0 (by omega : sh < 2 ^ 31)
  have within {a b : Number} := @fitSides_le sw sh mw mh sw0 sh0 (by omega) (by omega) mw0 mh0 a b
  by_cases tight : mw * sh < mh * sw
  case pos =>
    have product := mul_le_two_pow_48 ⟨mw0, short⟩ ⟨sh0, low⟩
    have rounds := rounds_halfUp sw0 (by omega) (nearest_nonneg (by positivity))
      (div_nearest_near ⟨sw0, narrow⟩ ⟨sh0, low⟩ ⟨mw0, short⟩)
    rw [if_pos (decided.mpr tight)] at chosen
    obtain ⟨w, h, first, second, inWidth, inHeight⟩ := within chosen
    cases first
    rw [second] at chosen
    rw [Number.int.inj second] at rounds
    lift h to ℕ using by omega
    exact ⟨mw, h, chosen, by omega, by omega, fun _ => ⟨rfl, rounds⟩, fun loose => by omega,
      fun same => by omega⟩
  case neg =>
    have product := mul_le_two_pow_48 ⟨mh0, flat⟩ ⟨sw0, narrow⟩
    have rounds := rounds_halfUp sh0 (by omega) (nearest_nonneg (by positivity))
      (mul_nearest_near ⟨sw0, narrow⟩ ⟨sh0, low⟩ ⟨mh0, flat⟩)
    rw [if_neg (mt decided.mp tight)] at chosen
    obtain ⟨w, h, first, second, inWidth, inHeight⟩ := within chosen
    cases second
    rw [first] at chosen
    rw [Number.int.inj first] at rounds
    lift w to ℕ using by omega
    refine ⟨w, mh, chosen, by omega, by omega, fun lt => absurd lt tight, fun _ => ⟨rfl, rounds⟩,
      fun same => ⟨?_, rfl⟩⟩
    rw [← same] at rounds
    exact rounds.eq_of_exact sh0 (by omega) mw0

/-- A fitted picture is left alone inside the box, and obeys the law outside it. -/
theorem drawn_fit (ordWidth : Ordinary r.width) (ordHeight : Ordinary r.height)
    (boxWidth : Ordinary mw) (boxHeight : Ordinary mh) :
    ∃ p, (fit width height).drawn r (.int mw) (.int mh) = .ok p ∧
      (r.width ≤ mw ∧ r.height ≤ mh → p = r) ∧
      (¬(r.width ≤ mw ∧ r.height ≤ mh) →
        FitsBox r.width r.height mw mh p.width p.height) := by
  by_cases inside : r.width ≤ mw ∧ r.height ≤ mh
  · exact ⟨r, by rw [drawn, fitSides_inside inside]; rfl, fun _ => rfl, absurd inside⟩
  · obtain ⟨w, h, chosen, fits⟩ := fitSides_fitsBox ordWidth ordHeight boxWidth boxHeight inside
    obtain ⟨w1, inWidth⟩ := fits.width
    obtain ⟨h1, inHeight⟩ := fits.height
    have across := (inWidth.trans (min_le_right _ _)).trans boxWidth.le
    have down := (inHeight.trans (min_le_right _ _)).trans boxHeight.le
    obtain ⟨p, made⟩ := (r.resized_found .lanczos (.whole r) (by omega : 1 ≤ (w : ℤ))
      (by omega : 1 ≤ (h : ℤ)) (show (w : ℤ) ≤ 0x7FFFFFFF by omega)
      (show (h : ℤ) ≤ 0x7FFFFFFF by omega)).found
        ⟨⟨ordWidth.le, ordHeight.le⟩, by exact_mod_cast across, by exact_mod_cast down⟩
    obtain ⟨sameWidth, sameHeight⟩ := Raster.resized_size made
    obtain rfl : p.width = w := by omega
    obtain rfl : p.height = h := by omega
    exact ⟨p, by rw [drawn, chosen]; exact made, fun both => absurd both inside, fun _ => fits⟩

/-- Fitting obeys exact proportions.  Whatever box the sides asked for settle to on a
picture, all sides up to `2 ^ 24`: inside the box the picture is left alone; outside
of it it comes out within the box and its own size, with one side of the box kept and
the other the nearest whole number to the exact proportion, or one. -/
theorem fit_proportional {a b : Value} (ordWidth : Ordinary r.width) (ordHeight : Ordinary r.height)
    (boxWidth : Ordinary mw) (boxHeight : Ordinary mh)
    (settled : targetSides width height r = .ok (some (a, b))) (ofA : a.number? = some (.int mw))
    (ofB : b.number? = some (.int mh)) :
    ∃ p, (fit width height).run r = .ok p ∧ (r.width ≤ mw ∧ r.height ≤ mh → p = r) ∧
      (¬(r.width ≤ mw ∧ r.height ≤ mh) → FitsBox r.width r.height mw mh p.width p.height ∧
        (p.width = mw ∧ Rounds p.height (mw * r.height) r.width ∨
          p.height = mh ∧ Rounds p.width (mh * r.width) r.height)) := by
  obtain ⟨p, made, inside, outside⟩ := drawn_fit ordWidth ordHeight boxWidth boxHeight
  refine ⟨p, ?_, inside, fun out => ⟨outside out, (outside out).keeps ordHeight.one_le⟩⟩
  rw [run_of_sides rfl, settled]
  simp only [Outcome.ok_bind, Value.toNumber_of_number? ofA, Value.toNumber_of_number? ofB]
  exact made

/-- A box one pixel smaller each way has nearly the ratio of the picture, less than one
part in `2 ^ 47` away.  The height is the tight side, by one unit, and the width is kept
all the same. -/
theorem nearly_alike_fitted :
    ∃ p, (fit (.number (.int 16777215)) (.number (.int 16777214))).run
        (.filled .gray 16777216 16777215 fun _ => 0) = .ok p ∧
      p.width = 16777215 ∧ p.height = 16777214 := by
  let r : Raster := .filled .gray 16777216 16777215 fun _ => 0
  have ordinary (n : ℕ) (one_le : 1 ≤ n) (le : n ≤ 2 ^ 24) : Ordinary n := ⟨one_le, le⟩
  have settled : targetSides (.number (.int 16777215)) (.number (.int 16777214)) r =
      .ok (some (.number (.int 16777215), .number (.int 16777214))) := rfl
  obtain ⟨p, made, -, outside⟩ :=
    fit_proportional (r := r) (ordinary _ (by decide) (by decide)) (ordinary _ (by decide) (by decide))
      (ordinary 16777215 (by decide) (by decide)) (ordinary 16777214 (by decide) (by decide))
      settled rfl rfl
  obtain ⟨fits, -⟩ := outside (by decide)
  obtain ⟨kept, rounds⟩ := fits.tightHeight (by decide)
  have nearest := rounds.eq_nearest (by decide) fits.width.1 fun k half => by
    change 2 * (16777214 * 16777216) = (2 * k + 1) * 16777215 at half
    omega
  exact ⟨p, made, nearest.trans (by decide), kept⟩

end Step

end Darkroom
