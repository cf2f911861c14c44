/-
# Darkroom.Proofs.Sides -- exact decisions and derived sides

Sides are whole numbers, and the engine compares and derives them through
rounded quotients.  For sources with sides below `2 ^ 50` the rounding does not
show:

* `runs_iff`: the policy declines a source exactly when one of the sides asked
  for is at least as long as the source's and enlarging is not allowed;
* `deriveSide_le`: a side that follows the proportions stays within the source
  when the given one does.
-/
import Darkroom.Options
import Darkroom.Proofs.Quotient
import Darkroom.Scaling

namespace Darkroom

set_option autoImplicit false

open Number

/-! ## The policy -/

theorem Value.toNumber_of_number? {v : Value} {n : Number} (holds : v.number? = some n) :
    v.toNumber = .ok n := by
  rw [Value.toNumber, holds]

/-- The request asks for sides of whole numbers of pixels. -/
structure Options.Asks (o : Options) (w h : ℕ) : Prop where
  width : o.width.number? = some (.int w)
  height : o.height.number? = some (.int h)

/-- The request asks for one pair of sides. -/
theorem Options.Asks.unique {o : Options} {w h x y : ℕ} (asks : o.Asks w h) (again : o.Asks x y) :
    w = x ∧ h = y := by
  have width := asks.width.symm.trans again.width
  have height := asks.height.symm.trans again.height
  simp only [Option.some.injEq, Number.int.injEq, Nat.cast_inj] at width height
  exact ⟨width, height⟩

namespace Scaling

/-- Only a side of nothing is refused. -/
theorem le_zero_natCast (n : ℕ) : (Number.int n).le (.int 0) = decide (n = 0) := by
  rw [← Nat.cast_zero, Number.le_natCast]
  exact decide_eq_decide.mpr Nat.le_zero

theorem toNumber_natCast (n : ℕ) : (Value.number (.int n)).toNumber = .ok (.int n) := rfl

theorem factor_natCast {sw sh : ℕ} (sw0 : 0 < sw) (sh0 : 0 < sh) {width height : Value} {w h : ℕ}
    (asksWidth : width.number? = some (.int w)) (asksHeight : height.number? = some (.int h)) :
    factorOf sw sh width height = (do
      let across ← Outcome.ofArithmetic ((Number.int w).div (.int sw))
      let down ← Outcome.ofArithmetic ((Number.int h).div (.int sh))
      return larger across down) := by
  have across := Value.toNumber_of_number? asksWidth
  have down := Value.toNumber_of_number? asksHeight
  simp only [factorOf, factor, toNumber_natCast, across, down, Outcome.ok_bind, le_zero_natCast,
    sw0.ne', sh0.ne', decide_false, Bool.false_eq_true, if_false]

/-- A source without pixels has no factor. -/
theorem sides_pos_of_factor {sw sh : ℕ} {width height : Value} {x : Double}
    (found : factorOf sw sh width height = .ok x) : 0 < sw ∧ 0 < sh := by
  simp only [factorOf, factor, toNumber_natCast, Outcome.ok_bind, le_zero_natCast,
    decide_eq_true_eq] at found
  by_cases wide : sw = 0
  · simp [wide] at found
  · by_cases tall : sh = 0
    · simp [wide, tall] at found
    · exact ⟨Nat.pos_of_ne_zero wide, Nat.pos_of_ne_zero tall⟩

/-- The factor is the larger of the two rounded ratios. -/
theorem factor_eq_ok {sw sh : ℕ} (sw0 : 0 < sw) (sh0 : 0 < sh) {width height : Value} {w h : ℕ}
    (asksWidth : width.number? = some (.int w)) (asksHeight : height.number? = some (.int h))
    {x : Double} (found : factorOf sw sh width height = .ok x) :
    x = .finite (max (nearest ((w : ℚ) / sw)) (nearest ((h : ℚ) / sh))) := by
  rw [factor_natCast sw0 sh0 asksWidth asksHeight] at found
  obtain ⟨across, foundAcross, found⟩ := Outcome.bind_eq_ok.mp found
  obtain ⟨down, foundDown, found⟩ := Outcome.bind_eq_ok.mp found
  rw [Outcome.ofArithmetic_eq_ok] at foundAcross foundDown
  obtain rfl := div_natCast_eq_ok sw0 foundAcross
  obtain rfl := div_natCast_eq_ok sh0 foundDown
  rw [← Except.ok.inj found, larger, Double.lt_finite]
  split_ifs with order
  · rw [max_eq_right (of_decide_eq_true order).le]
  · rw [max_eq_left (le_of_not_gt fun lt => order (decide_eq_true lt))]

/-- A factor within the finite range is found. -/
theorem factor_found {sw sh : ℕ} (sw0 : 0 < sw) (sh0 : 0 < sh) {width height : Value} {w h : ℕ}
    (asksWidth : width.number? = some (.int w)) (asksHeight : height.number? = some (.int h))
    (fitsAcross : (w : ℚ) / sw ≤ largestDouble) (fitsDown : (h : ℚ) / sh ≤ largestDouble) :
    ∃ x, factorOf sw sh width height = .ok x := by
  rw [factor_natCast sw0 sh0 asksWidth asksHeight, div_natCast_of_le sw0 fitsAcross,
    div_natCast_of_le sh0 fitsDown]
  exact ⟨_, rfl⟩

/-- The policy lets a resample run exactly when both sides asked for are shorter
than those of the source, or when enlarging is allowed. -/
theorem runs_iff {sw sh : ℕ} (sw0 : 0 < sw) (sh0 : 0 < sh) (narrow : sw ≤ 2 ^ 53)
    (low : sh ≤ 2 ^ 53) {width height : Value} {w h : ℕ}
    (asksWidth : width.number? = some (.int w)) (asksHeight : height.number? = some (.int h))
    {x : Double} (found : factorOf sw sh width height = .ok x) (upscale : Bool) :
    runs x upscale = true ↔ w < sw ∧ h < sh ∨ upscale = true := by
  rw [factor_eq_ok sw0 sh0 asksWidth asksHeight found, runs, Double.lt_finite, Bool.or_eq_true,
    decide_eq_true_eq, max_lt_iff, nearest_div_lt_one sw0 narrow, nearest_div_lt_one sh0 low]

end Scaling

/-! ## Derived sides -/

/-- A side that follows the proportions: the exact product, divided and rounded
half up, and one at least. -/
theorem deriveSide_eq_ok {known sourceKnown sourceOther : ℕ} (positive : 0 < sourceKnown) {d : ℤ}
    (derived : deriveSide (.int known) (.int sourceKnown) (.int sourceOther) = .ok d) :
    d = max 1 (halfUp (nearest (((known * sourceOther : ℕ) : ℚ) / sourceKnown))) := by
  simp only [deriveSide, Number.mul, Outcome.ok_bind, ← Nat.cast_mul,
    Outcome.ofArithmetic_eq_ok] at derived
  obtain ⟨ratio, foundRatio, rest⟩ := Outcome.bind_eq_ok.mp derived
  obtain ⟨whole, foundWhole, result⟩ := Outcome.bind_eq_ok.mp rest
  rw [Number.div_natCast_eq_ok positive foundRatio] at foundWhole
  rw [← Except.ok.inj result, Number.floor_add_half (nearest_nonneg (by positivity)) foundWhole]

/-- A side is derived where the product of the sides is not astronomical. -/
theorem deriveSide_found_of_product {known sourceKnown sourceOther : ℕ} (positive : 0 < sourceKnown)
    (product : known * sourceOther ≤ 2 ^ 62) :
    ∃ d, deriveSide (.int known) (.int sourceKnown) (.int sourceOther) = .ok d := by
  have ratio : ((known * sourceOther : ℕ) : ℚ) / sourceKnown ≤ (2 ^ 62 : ℕ) := by
    rw [div_le_iff₀ (by exact_mod_cast positive)]
    exact_mod_cast product.trans (Nat.le_mul_of_pos_right _ positive)
  have large : ((2 ^ 62 : ℕ) : ℚ) ≤ 2 ^ (62 : ℤ) := by norm_num
  have rounded : nearest (((known * sourceOther : ℕ) : ℚ) / sourceKnown) ≤ 2 ^ (62 : ℤ) :=
    nearest_le (by positivity) (.two_zpow (by norm_num)) (ratio.trans large)
  have fits : ((2 ^ 62 : ℕ) : ℚ) ≤ largestDouble := by decide +kernel
  obtain ⟨whole, found⟩ :=
    floor_add_half_found (nearest_nonneg (by positivity)) (rounded.trans (by norm_num))
  refine ⟨max 1 whole, ?_⟩
  simp only [deriveSide, Number.mul, Outcome.ok_bind, ← Nat.cast_mul,
    div_natCast_of_le positive (ratio.trans fits), found]
  rfl

theorem deriveSide_found {known sourceKnown sourceOther : ℕ} (positive : 0 < sourceKnown)
    (short : known < 2 ^ 31) (narrow : sourceOther < 2 ^ 31) :
    ∃ d, deriveSide (.int known) (.int sourceKnown) (.int sourceOther) = .ok d :=
  deriveSide_found_of_product positive
    (Nat.mul_le_mul short.le narrow.le : known * sourceOther ≤ 2 ^ 31 * 2 ^ 31)

/-- A derived side stays within the source when the given one does. -/
theorem deriveSide_le {known sourceKnown sourceOther : ℕ} (positive : 0 < sourceKnown)
    (small : sourceOther < 2 ^ 50) (otherPositive : 0 < sourceOther) {d : ℤ}
    (derived : deriveSide (.int known) (.int sourceKnown) (.int sourceOther) = .ok d)
    (le : known ≤ sourceKnown) : d ≤ sourceOther := by
  have ratio : ((known * sourceOther : ℕ) : ℚ) / sourceKnown ≤ sourceOther := by
    rw [div_le_iff₀ (by exact_mod_cast positive)]
    have := Nat.mul_le_mul_right sourceOther le
    rw [Nat.mul_comm sourceKnown] at this
    exact_mod_cast this
  have rounded : nearest (((known * sourceOther : ℕ) : ℚ) / sourceKnown) ≤ sourceOther :=
    nearest_le (by positivity) (.natCast (by omega)) ratio
  rw [deriveSide_eq_ok positive derived]
  exact max_le (by exact_mod_cast otherPositive)
    (halfUp_le (nearest_nonneg (by positivity)) (by linarith) small)

theorem one_le_deriveSide {known sourceKnown sourceOther : Number} {d : ℤ}
    (derived : deriveSide known sourceKnown sourceOther = .ok d) : 1 ≤ d := by
  simp only [deriveSide, Outcome.ofArithmetic_eq_ok] at derived
  obtain ⟨product, -, rest⟩ := Outcome.bind_eq_ok.mp derived
  obtain ⟨ratio, -, rest⟩ := Outcome.bind_eq_ok.mp rest
  obtain ⟨whole, -, result⟩ := Outcome.bind_eq_ok.mp rest
  rw [← Except.ok.inj result]
  exact le_max_left _ _

/-! ## The sides asked for -/

namespace Options

theorem isZero_of_number? {v : Value} {n : ℕ} (holds : v.number? = some (.int n)) :
    isZero v = decide (n = 0) := by
  have order : (Number.int 0).le (.int n) = true := by
    rw [← Nat.cast_zero, Number.le_natCast]
    exact decide_eq_true (Nat.zero_le n)
  simp only [isZero, holds, Number.same, Scaling.le_zero_natCast, order, Bool.and_true]

/-- The sides asked for of a source, with a zero one derived from its proportions. -/
def askedSides (w h sw sh : ℕ) : Outcome (ℤ × ℤ) :=
  if w = 0 then do return (← deriveSide (.int h) (.int sh) (.int sw), (h : ℤ))
  else if h = 0 then do return ((w : ℤ), ← deriveSide (.int w) (.int sw) (.int sh))
  else .ok (w, h)

variable {w h sw sh : ℕ} {x y : ℤ}

theorem one_le_askedSides (some_ : ¬(w = 0 ∧ h = 0)) (asked : askedSides w h sw sh = .ok (x, y)) :
    1 ≤ x ∧ 1 ≤ y := by
  unfold askedSides at asked
  split_ifs at asked with noWidth noHeight
  · obtain ⟨d, derived, result⟩ := Outcome.bind_eq_ok.mp asked
    obtain ⟨rfl, rfl⟩ := Prod.mk.inj (Except.ok.inj result)
    exact ⟨one_le_deriveSide derived, by omega⟩
  · obtain ⟨d, derived, result⟩ := Outcome.bind_eq_ok.mp asked
    obtain ⟨rfl, rfl⟩ := Prod.mk.inj (Except.ok.inj result)
    exact ⟨by omega, one_le_deriveSide derived⟩
  · obtain ⟨rfl, rfl⟩ := Prod.mk.inj (Except.ok.inj asked)
    exact ⟨by omega, by omega⟩

/-- Sides are settled on a source where none of them is astronomical. -/
theorem askedSides_found (sw0 : 0 < sw) (sh0 : 0 < sh) (narrow : sw < 2 ^ 31) (low : sh < 2 ^ 31)
    (short : w < 2 ^ 31) (flat : h < 2 ^ 31) : ∃ x y, askedSides w h sw sh = .ok (x, y) := by
  unfold askedSides
  split_ifs
  · obtain ⟨d, derived⟩ := deriveSide_found sh0 flat narrow
    exact ⟨d, h, by rw [derived]; rfl⟩
  · obtain ⟨d, derived⟩ := deriveSide_found sw0 short low
    exact ⟨w, d, by rw [derived]; rfl⟩
  · exact ⟨w, h, rfl⟩

/-- Sides asked for within a source stay within it when one of them is derived. -/
theorem askedSides_le (sw0 : 0 < sw) (sh0 : 0 < sh) (narrow : sw < 2 ^ 31) (low : sh < 2 ^ 31)
    (within : w ≤ sw ∧ h ≤ sh) (asked : askedSides w h sw sh = .ok (x, y)) :
    x ≤ sw ∧ y ≤ sh := by
  unfold askedSides at asked
  split_ifs at asked with noWidth noHeight
  · obtain ⟨d, derived, result⟩ := Outcome.bind_eq_ok.mp asked
    obtain ⟨rfl, rfl⟩ := Prod.mk.inj (Except.ok.inj result)
    exact ⟨deriveSide_le sh0 (by omega) sw0 derived within.2, by omega⟩
  · obtain ⟨d, derived, result⟩ := Outcome.bind_eq_ok.mp asked
    obtain ⟨rfl, rfl⟩ := Prod.mk.inj (Except.ok.inj result)
    exact ⟨by omega, deriveSide_le sw0 (by omega) sh0 derived within.1⟩
  · obtain ⟨rfl, rfl⟩ := Prod.mk.inj (Except.ok.inj asked)
    exact ⟨by omega, by omega⟩

/-- A side that is given is kept. -/
theorem given_of_askedSides (asked : askedSides w h sw sh = .ok (x, y)) :
    (w ≠ 0 → x = w) ∧ (h ≠ 0 → y = h) := by
  unfold askedSides at asked
  split_ifs at asked with noWidth noHeight
  · obtain ⟨d, -, result⟩ := Outcome.bind_eq_ok.mp asked
    obtain ⟨rfl, rfl⟩ := Prod.mk.inj (Except.ok.inj result)
    exact ⟨fun given => absurd noWidth given, fun _ => rfl⟩
  · obtain ⟨d, -, result⟩ := Outcome.bind_eq_ok.mp asked
    obtain ⟨rfl, rfl⟩ := Prod.mk.inj (Except.ok.inj result)
    exact ⟨fun _ => rfl, fun given => absurd noHeight given⟩
  · obtain ⟨rfl, rfl⟩ := Prod.mk.inj (Except.ok.inj asked)
    exact ⟨fun _ => rfl, fun _ => rfl⟩

/-- Asked sides are resolved as they were given, a derived one as a whole number. -/
theorem resolvedSides_of_asks {o : Options} (asks : o.Asks w h) :
    o.resolvedSides (.int sw) (.int sh) = (
      if w = 0 ∧ h = 0 then .ok (o.width, o.height)
      else do
        let (x, y) ← askedSides w h sw sh
        return (if w = 0 then .number (.int x) else o.width,
          if h = 0 then .number (.int y) else o.height)) := by
  obtain ⟨asksWidth, asksHeight⟩ := asks
  rw [resolvedSides, isZero_of_number? asksWidth, isZero_of_number? asksHeight,
    Value.toNumber_of_number? asksWidth, Value.toNumber_of_number? asksHeight, askedSides]
  by_cases noWidth : w = 0 <;> by_cases noHeight : h = 0 <;> simp [noWidth, noHeight]

theorem resolvedSides_eq_ok {o : Options} {a b : Value} (asks : o.Asks w h)
    (resolved : o.resolvedSides (.int sw) (.int sh) = .ok (a, b)) :
    if w = 0 ∧ h = 0 then a = o.width ∧ b = o.height
    else ∃ x y : ℤ, askedSides w h sw sh = .ok (x, y) ∧ a.number? = some (.int x) ∧
      b.number? = some (.int y) := by
  rw [resolvedSides_of_asks asks] at resolved
  by_cases nothing : w = 0 ∧ h = 0
  · rw [if_pos nothing] at resolved ⊢
    obtain ⟨rfl, rfl⟩ := Prod.mk.inj (Except.ok.inj resolved)
    exact ⟨rfl, rfl⟩
  · rw [if_neg nothing] at resolved ⊢
    obtain ⟨⟨x, y⟩, asked, result⟩ := Outcome.bind_eq_ok.mp resolved
    obtain ⟨rfl, rfl⟩ := Prod.mk.inj (Except.ok.inj result)
    obtain ⟨givenWidth, givenHeight⟩ := given_of_askedSides asked
    refine ⟨x, y, asked, ?_, ?_⟩
    · by_cases noWidth : w = 0
      · rw [if_pos noWidth]
        rfl
      · rw [if_neg noWidth, asks.width, givenWidth noWidth]
    · by_cases noHeight : h = 0
      · rw [if_pos noHeight]
        rfl
      · rw [if_neg noHeight, asks.height, givenHeight noHeight]

/-- Sides that can be settled are resolved. -/
theorem resolvedSides_found {o : Options} (asks : o.Asks w h)
    (asked : askedSides w h sw sh = .ok (x, y)) :
    ∃ sides, o.resolvedSides (.int sw) (.int sh) = .ok sides := by
  rw [resolvedSides_of_asks asks, asked]
  split <;> exact ⟨_, rfl⟩

end Options

end Darkroom
