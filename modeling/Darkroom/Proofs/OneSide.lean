/-
# Darkroom.Proofs.OneSide -- a single side that is given, and the one that follows

With one side given and the other zero, the other follows from the proportions of the
picture, rounded half up.  Resizing and filling take both sides as they then stand.
Fitting takes them as a box to stay inside, and so rounds a second time: where the
derived side was rounded up the given one is still the tight one and is kept, but where
it was rounded down the derived side is the tight one, and the given one follows from
it.

`KeepsSide` says which of the two happens, in whole numbers.  Both orientations obey it
(`FitsBox.keepsSide`), for the law of fitting does not tell the sides apart.
-/
import Darkroom.Proofs.Deriving
import Darkroom.Proofs.Proportions

namespace Darkroom

set_option autoImplicit false

open Number

/-! ## The side that follows -/

section Derived

variable {known sourceKnown sourceOther : ℕ}

/-- A derived side is next to the proportion. -/
theorem rounds_exactSide (positive : 0 < sourceKnown) :
    Rounds (exactSide known sourceKnown sourceOther) (known * sourceOther) sourceKnown := by
  have b1 : 0 < 2 * sourceKnown := by omega
  have below : roundHalfUp (known * sourceOther) sourceKnown * (2 * sourceKnown) ≤
      2 * (known * sourceOther) + sourceKnown := Nat.div_mul_le_self _ _
  have above : 2 * (known * sourceOther) + sourceKnown <
      (roundHalfUp (known * sourceOther) sourceKnown + 1) * (2 * sourceKnown) := by
    rw [Nat.mul_comm _ (2 * sourceKnown)]
    exact Nat.lt_mul_div_succ _ b1
  rw [Rounds, exactSide, Rounds.small_iff positive, Rounds.near_iff positive]
  rcases Nat.eq_zero_or_pos (roundHalfUp (known * sourceOther) sourceKnown) with zero | one_le
  · rw [zero] at above ⊢
    exact .inr ⟨rfl, by omega⟩
  · rw [max_eq_right one_le]
    exact .inl ⟨by linarith, by linarith⟩

/-- A side derived from one within the source is within the source. -/
theorem exactSide_le (positive : 0 < sourceKnown) (some_ : 0 < sourceOther)
    (le : known ≤ sourceKnown) : exactSide known sourceKnown sourceOther ≤ sourceOther := by
  have within := Nat.mul_le_mul_right sourceOther le
  exact max_le some_ (Nat.lt_succ_iff.mp (Nat.div_lt_of_lt_mul (by linarith)))

end Derived

/-! ## One rounding after another -/

/-- A side `g` is given of a picture with the side `sk` there and `so` across, and `d` is
derived from it.  Fitted, the picture comes out with `ng` and `nd`.  Both sides are kept
where `d`, taken back to the given side, is less than a half short of `g`, unless `d` was
rounded from an exact half: then the given side is kept, and the derived one may come out
a pixel shorter.  Where `d` is more than a half short of `g` the derived side is kept, and
the given one follows from it; at an exact half it loses a pixel at the most. -/
structure KeepsSide (g d sk so ng nd : ℕ) : Prop where
  inside : ng ≤ g ∧ nd ≤ d
  kept : 2 * (g * so) < 2 * (d * sk) + so → (∀ k, 2 * (g * so) ≠ (2 * k + 1) * sk) →
    ng = g ∧ nd = d
  derivedHalf : ∀ k, 2 * (g * so) = (2 * k + 1) * sk → ng = g ∧ (nd = d ∨ nd + 1 = d)
  yields : 2 * (d * sk) + so < 2 * (g * so) → nd = d ∧ ng < g ∧ Rounds ng (d * sk) so
  givenHalf : 2 * (d * sk) + so = 2 * (g * so) → nd = d ∧ (ng = g ∨ ng + 1 = g)

namespace FitsBox

variable {g d sk so ng nd : ℕ}

/-- Where the box is too low by the rounding of the derived side, the given side gives way. -/
theorem given_lt (one_le : 1 ≤ g) (sk0 : 0 < sk) (so0 : 0 < so) (d1 : 1 ≤ d)
    (derived : Rounds d (g * so) sk) (again : Rounds ng (d * sk) so)
    (far : 2 * (d * sk) + so < 2 * (g * so)) : ng < g := by
  rcases again.twice_le so0 with high | ⟨rfl, small⟩
  · exact Nat.lt_of_mul_lt_mul_right (by linarith : ng * so < g * so)
  · -- A given side of one would leave no room: the derived side is next to `so / sk`.
    by_contra more
    obtain rfl : g = 1 := by omega
    have low := derived.le_twice sk0
    have some_ := Nat.mul_le_mul_right sk d1
    omega

/-- A side derived from an exact half was rounded up. -/
theorem lt_of_derivedHalf {k : ℕ} (sk0 : 0 < sk) (half : 2 * (g * so) = (2 * k + 1) * sk) :
    g * so < exactSide g sk so * sk := by
  have up : roundHalfUp (g * so) sk = k + 1 := by
    have twice : 2 * (g * so) + sk = (k + 1) * (2 * sk) := by rw [half]; ring
    rw [roundHalfUp, twice, Nat.mul_div_cancel _ (by omega)]
  have le : (k + 1) * sk ≤ exactSide g sk so * sk :=
    Nat.mul_le_mul_right sk (up ▸ le_max_right ..)
  linarith

/-- The law for a side that is given and the one derived from it. -/
theorem keepsSide (fits : FitsBox sk so g (exactSide g sk so) ng nd) (one_le : 1 ≤ g) (sk0 : 0 < sk)
    (so0 : 0 < so) : KeepsSide g (exactSide g sk so) sk so ng nd := by
  have derived : Rounds (exactSide g sk so) (g * so) sk := rounds_exactSide sk0
  have d1 := one_le_exactSide g sk so
  have own : exactSide g sk so = max 1 (roundHalfUp (g * so) sk) := rfl
  have up {k : ℕ} := @lt_of_derivedHalf g sk so k sk0
  generalize exactSide g sk so = d at *
  obtain ⟨w1, inWidth⟩ := fits.width
  obtain ⟨h1, inHeight⟩ := fits.height
  refine ⟨by omega, fun near noHalf => ?_, fun k half => ?_, fun far => ?_, fun half => ?_⟩
  · rcases lt_trichotomy (g * so) (d * sk) with up | same | down
    · obtain ⟨kept, rounds⟩ := fits.tightWidth up
      exact ⟨kept, (rounds.eq_nearest sk0 h1 noHalf).trans own.symm⟩
    · exact fits.alike same
    · obtain ⟨kept, rounds⟩ := fits.tightHeight down
      have low := rounds.le_twice so0
      have : g < ng + 1 := Nat.lt_of_mul_lt_mul_right (by linarith : g * so < (ng + 1) * so)
      exact ⟨by omega, kept⟩
  · obtain ⟨kept, rounds⟩ := fits.tightWidth (up half)
    have := derived.le_succ sk0 rounds
    exact ⟨kept, by omega⟩
  · obtain ⟨kept, rounds⟩ := fits.tightHeight (by omega)
    exact ⟨kept, given_lt one_le sk0 so0 d1 derived rounds far, rounds⟩
  · obtain ⟨kept, rounds⟩ := fits.tightHeight (by omega)
    have low := rounds.le_twice so0
    have : g ≤ ng + 1 := Nat.le_of_mul_le_mul_right (by linarith : g * so ≤ (ng + 1) * so) so0
    exact ⟨kept, by omega⟩

end FitsBox

/-! ## The three resamples -/

namespace Step

variable {r : Raster} {width height : Value} {w h x y : ℕ}

/-- A step makes a picture of this size. -/
def Gives (step : Step) (r : Raster) (w h : ℕ) : Prop :=
  ∃ p, step.run r = .ok p ∧ p.width = w ∧ p.height = h

/-- Resizing and filling give the sides as they are settled. -/
theorem gives_of_fills {step : Step} (filling : step.fills = true)
    (given : step.sides? = some (width, height)) (asksWidth : width.number? = some (.int w))
    (asksHeight : height.number? = some (.int h)) (some_ : ¬(w = 0 ∧ h = 0))
    (ordWidth : Ordinary r.width) (ordHeight : Ordinary r.height) (across : Ordinary x)
    (down : Ordinary y)
    (asked : Options.askedSides w h r.width r.height = .ok ((x : ℤ), (y : ℤ))) :
    step.Gives r x y := by
  have := ordWidth.le
  have := ordHeight.le
  have := across.le
  have := down.le
  have short : Short r x y :=
    ⟨⟨ordWidth.le, ordHeight.le⟩, by exact_mod_cast across.le, by exact_mod_cast down.le⟩
  obtain ⟨p, made⟩ := (drawn_found step ordWidth.one_le ordHeight.one_le (by omega) (by omega)
    across.one_le down.one_le (by omega : x < 2 ^ 31) (by omega : y < 2 ^ 31)).found short
  obtain ⟨sameWidth, sameHeight⟩ := drawn_size filling made
  exact ⟨p, (run_of_asked given asksWidth asksHeight some_ asked).trans made, by omega, by omega⟩

/-- Fitting takes the sides as they are settled as a box. -/
theorem gives_fit (asksWidth : width.number? = some (.int w))
    (asksHeight : height.number? = some (.int h)) (some_ : ¬(w = 0 ∧ h = 0))
    (ordWidth : Ordinary r.width) (ordHeight : Ordinary r.height) (across : Ordinary x)
    (down : Ordinary y) (outside : ¬(r.width ≤ x ∧ r.height ≤ y))
    (asked : Options.askedSides w h r.width r.height = .ok ((x : ℤ), (y : ℤ))) :
    ∃ m n, (fit width height).Gives r m n ∧ FitsBox r.width r.height x y m n := by
  obtain ⟨p, made, -, fits⟩ := drawn_fit ordWidth ordHeight across down
  exact ⟨p.width, p.height, ⟨p, (run_of_asked rfl asksWidth asksHeight some_ asked).trans made,
    rfl, rfl⟩, fits outside⟩

/-- Sides of an ordinary size are derived without an error. -/
theorem derivable_of_ordinary {g sk so : ℕ} (given : Ordinary g) (known : Ordinary sk)
    (other : Ordinary so) : Derivable g sk so := by
  have := known.le
  exact ⟨known.one_le, (mul_le_two_pow_48 given other).trans_lt (by norm_num), by omega⟩

/-- One side given, the other zero.  The missing side is derived from the given one, and
resizing and filling give exactly these two.  Fitting takes them as a box: both are kept
unless the derived side was rounded down by more than the given one can hide. -/
theorem one_side_given {given : ℕ} {side missing : Value} (ordWidth : Ordinary r.width)
    (ordHeight : Ordinary r.height) (asks : side.number? = some (.int given))
    (zero : missing.number? = some (.int (0 : ℕ))) (one_le : 1 ≤ given) :
    (given < r.width → ∃ d : ℕ,
      deriveSide (.int given) (.int r.width) (.int r.height) = .ok d ∧
        (resize side missing).Gives r given d ∧ (thumbnail side missing).Gives r given d ∧
          ∃ ng nd, (fit side missing).Gives r ng nd ∧
            KeepsSide given d r.width r.height ng nd) ∧
      (given < r.height → ∃ d : ℕ,
        deriveSide (.int given) (.int r.height) (.int r.width) = .ok d ∧
          (resize missing side).Gives r d given ∧ (thumbnail missing side).Gives r d given ∧
            ∃ ng nd, (fit missing side).Gives r nd ng ∧
              KeepsSide given d r.height r.width ng nd) := by
  have wide := ordWidth.one_le
  have tall := ordHeight.one_le
  have kept : given ≠ 0 := by omega
  refine ⟨fun lt => ?_, fun lt => ?_⟩
  case refine_1 =>
    have own : Ordinary given := ⟨one_le, by have := ordWidth.le; omega⟩
    have other : Ordinary (exactSide given r.width r.height) :=
      ⟨one_le_exactSide _ _ _, (exactSide_le wide tall lt.le).trans ordHeight.le⟩
    have derived := deriveSide_exact (derivable_of_ordinary own ordWidth ordHeight)
    have asked : Options.askedSides given 0 r.width r.height =
        .ok ((given : ℤ), (exactSide given r.width r.height : ℕ)) := by
      simp only [Options.askedSides, if_neg kept, derived]
      rfl
    obtain ⟨m, n, made, fits⟩ := gives_fit asks zero (by omega) ordWidth ordHeight own other
      (by omega) asked
    exact ⟨_, derived,
      gives_of_fills rfl rfl asks zero (by omega) ordWidth ordHeight own other asked,
      gives_of_fills rfl rfl asks zero (by omega) ordWidth ordHeight own other asked,
      m, n, made, fits.keepsSide one_le wide tall⟩
  case refine_2 =>
    have own : Ordinary given := ⟨one_le, by have := ordHeight.le; omega⟩
    have other : Ordinary (exactSide given r.height r.width) :=
      ⟨one_le_exactSide _ _ _, (exactSide_le tall wide lt.le).trans ordWidth.le⟩
    have derived := deriveSide_exact (derivable_of_ordinary own ordHeight ordWidth)
    have asked : Options.askedSides 0 given r.width r.height =
        .ok (((exactSide given r.height r.width : ℕ) : ℤ), (given : ℤ)) := by
      simp only [Options.askedSides, derived]
      rfl
    obtain ⟨m, n, made, fits⟩ := gives_fit zero asks (by omega) ordWidth ordHeight other own
      (by omega) asked
    exact ⟨_, derived,
      gives_of_fills rfl rfl zero asks (by omega) ordWidth ordHeight other own asked,
      gives_of_fills rfl rfl zero asks (by omega) ordWidth ordHeight other own asked,
      n, m, made, fits.swap.keepsSide one_le tall wide⟩

/-- Three of seven pixels leave two and a seventh of five, and four of five leave five and
three fifths of seven: all three resamples give the sides as they are derived. -/
theorem sevenths_and_fifths_given :
    ((fit (.number (.int 3)) (.number (.int 0))).Gives (.filled .rgb 7 5 fun _ => 0) 3 2 ∧
      (resize (.number (.int 3)) (.number (.int 0))).Gives (.filled .rgb 7 5 fun _ => 0) 3 2) ∧
      (fit (.number (.int 0)) (.number (.int 4))).Gives (.filled .rgb 7 5 fun _ => 0) 6 4 ∧
        (thumbnail (.number (.int 0)) (.number (.int 4))).Gives (.filled .rgb 7 5 fun _ => 0) 6 4 := by
  let r : Raster := .filled .rgb 7 5 fun _ => 0
  have ordWidth : Ordinary r.width := ⟨by decide, by decide⟩
  have ordHeight : Ordinary r.height := ⟨by decide, by decide⟩
  have number (n : ℕ) : (Value.number (.int n)).number? = some (.int n) := rfl
  obtain ⟨ofWidth, -⟩ := one_side_given ordWidth ordHeight (number 3) (number 0) (by decide)
  obtain ⟨-, ofHeight⟩ := one_side_given ordWidth ordHeight (number 4) (number 0) (by decide)
  constructor
  · obtain ⟨d, derived, resized, -, ng, nd, fitted, keeps⟩ := ofWidth (by decide)
    have own := deriveSide_exact (⟨by decide, by decide, by decide⟩ : Derivable 3 7 5)
    obtain rfl : d = 2 := by exact_mod_cast Except.ok.inj (derived.symm.trans own)
    obtain ⟨rfl, rfl⟩ := keeps.kept (by decide) fun k half => by
      change 2 * (3 * 5) = (2 * k + 1) * 7 at half
      omega
    exact ⟨fitted, resized⟩
  · obtain ⟨d, derived, -, filled, ng, nd, fitted, keeps⟩ := ofHeight (by decide)
    have own := deriveSide_exact (⟨by decide, by decide, by decide⟩ : Derivable 4 5 7)
    obtain rfl : d = 6 := by exact_mod_cast Except.ok.inj (derived.symm.trans own)
    obtain ⟨rfl, rfl⟩ := keeps.kept (by decide) fun k half => by
      change 2 * (4 * 7) = (2 * k + 1) * 5 at half
      omega
    exact ⟨fitted, filled⟩

/-- A width of four on a picture of six by two leaves a height of one and a third, so of
one.  In that box the height is the tight side, and the width comes out as three. -/
theorem given_width_lost :
    deriveSide (.int 4) (.int 6) (.int 2) = .ok 1 ∧
      (fit (.number (.int 4)) (.number (.int 0))).Gives (.filled .rgb 6 2 fun _ => 9) 3 1 ∧
        ¬(fit (.number (.int 4)) (.number (.int 0))).Gives (.filled .rgb 6 2 fun _ => 9) 4 1 := by
  let r : Raster := .filled .rgb 6 2 fun _ => 9
  have derived : deriveSide (.int (4 : ℕ)) (.int (6 : ℕ)) (.int (2 : ℕ)) = .ok (1 : ℕ) :=
    deriveSide_exact (⟨by decide, by decide, by decide⟩ : Derivable 4 6 2)
  have asked : Options.askedSides 4 0 r.width r.height = .ok ((4 : ℕ), (1 : ℕ)) := by
    change Options.askedSides 4 0 6 2 = _
    simp only [Options.askedSides, derived]
    rfl
  have ordinary (n : ℕ) (one_le : 1 ≤ n) (le : n ≤ 6) : Ordinary n := ⟨one_le, by omega⟩
  have number (n : ℕ) : (Value.number (.int n)).number? = some (.int n) := rfl
  obtain ⟨m, n, made, fits⟩ := gives_fit (number 4) (number 0) (by decide)
    (ordinary r.width (by decide) (by decide)) (ordinary r.height (by decide) (by decide))
    (ordinary 4 (by decide) (by decide)) (ordinary 1 (by decide) (by decide)) (by decide) asked
  obtain ⟨rfl, rounds⟩ := fits.tightHeight (by decide)
  change Rounds m (3 * 2) 2 at rounds
  obtain rfl := rounds.eq_of_exact (by decide) fits.width.1 (by decide)
  refine ⟨derived, made, fun other => ?_⟩
  obtain ⟨p, ran, three, -⟩ := made
  obtain ⟨q, ranToo, four, -⟩ := other
  obtain rfl := Except.ok.inj (ran.symm.trans ranToo)
  omega

end Step

end Darkroom
