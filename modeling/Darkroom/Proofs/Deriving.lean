/-
# Darkroom.Proofs.Deriving -- a derived side is exact, and is derived once

A side that is not given follows the proportions of the source.  It is computed
through a double, and still comes to the exact ratio rounded half up, one at least:
`Options.exactSide`, for sides in the range that `Derivable` states
(`deriveSide_exact`).

Options whose sides are both given or both zero have nothing to derive, and settling
them changes nothing, on whatever source (`resolve_of_settled`).  Settling any others
brings them there (`derives_completed`), so settling a second time does nothing, on
the same source or another.
-/
import Darkroom.Proofs.Halves
import Darkroom.Proofs.Sides

namespace Darkroom

set_option autoImplicit false

open Number

/-! ## One side from another -/

/-- The side that follows the proportions: the ratio rounded half up, one at least. -/
def exactSide (known sourceKnown sourceOther : ℕ) : ℕ :=
  max 1 (roundHalfUp (known * sourceOther) sourceKnown)

theorem one_le_exactSide (known sourceKnown sourceOther : ℕ) :
    1 ≤ exactSide known sourceKnown sourceOther := le_max_left _ _

/-- Sides from which another one is derived without an error. -/
structure Derivable (known sourceKnown sourceOther : ℕ) : Prop where
  positive : 0 < sourceKnown
  product : known * sourceOther < 2 ^ 50
  small : sourceKnown < 2 ^ 50

/-- The double on the way to a derived side does not show. -/
theorem deriveSide_exact {known sourceKnown sourceOther : ℕ}
    (derivable : Derivable known sourceKnown sourceOther) :
    deriveSide (.int known) (.int sourceKnown) (.int sourceOther) =
      .ok (exactSide known sourceKnown sourceOther : ℕ) := by
  obtain ⟨positive, product, small⟩ := derivable
  obtain ⟨d, derived⟩ := deriveSide_found_of_product positive (product.le.trans (by norm_num))
  rw [derived, deriveSide_eq_ok positive derived, halfUp_nearest_div positive product small,
    exactSide]
  push_cast
  rfl

namespace Options

variable {o : Options} {w h sw sh : ℕ}

/-! ## Nothing to derive -/

/-- Sides that are both given or both zero are left as they are. -/
theorem resolve_of_settled (settled : o.derives = false) (m n : Number) :
    o.resolve m n = .ok o := by
  have alike : isZero o.width = isZero o.height := by simpa [derives] using settled
  have kept : o.resolvedSides m n = .ok (o.width, o.height) := by
    unfold resolvedSides
    rw [alike]
    cases isZero o.height <;> rfl
  rw [resolve, kept]
  rfl

theorem derives_of_asks (asks : o.Asks w h) :
    o.derives = (decide (w = 0) != decide (h = 0)) := by
  rw [derives, isZero_of_number? asks.width, isZero_of_number? asks.height]

/-! ## What is derived -/

/-- The options with the side that is missing filled in. -/
def completed (o : Options) (w h sw sh : ℕ) : Options :=
  { o with
    width := if w = 0 ∧ h ≠ 0 then .number (.int (exactSide h sh sw : ℕ)) else o.width
    height := if h = 0 ∧ w ≠ 0 then .number (.int (exactSide w sw sh : ℕ)) else o.height }

/-- Completed options ask for sides that are both zero or both not. -/
theorem asks_completed (asks : o.Asks w h) :
    (o.completed w h sw sh).Asks (if w = 0 ∧ h ≠ 0 then exactSide h sh sw else w)
      (if h = 0 ∧ w ≠ 0 then exactSide w sw sh else h) := by
  constructor
  · dsimp only [completed]
    split
    · rfl
    · exact asks.width
  · dsimp only [completed]
    split
    · rfl
    · exact asks.height

theorem derives_completed (asks : o.Asks w h) : (o.completed w h sw sh).derives = false := by
  have across := one_le_exactSide h sh sw
  have down := one_le_exactSide w sw sh
  rw [derives_of_asks (asks_completed asks), bne_eq_false_iff_eq, decide_eq_decide]
  split_ifs <;> omega

/-- Settling the sides completes the options. -/
theorem resolve_eq_completed (asks : o.Asks w h) (across : w = 0 → h ≠ 0 → Derivable h sh sw)
    (down : h = 0 → w ≠ 0 → Derivable w sw sh) :
    o.resolve (.int sw) (.int sh) = .ok (o.completed w h sw sh) := by
  rw [resolve, resolvedSides_of_asks asks, completed]
  by_cases noWidth : w = 0 <;> by_cases noHeight : h = 0
  · simp [noWidth, noHeight]
  · have derived := deriveSide_exact (across noWidth noHeight)
    simp [noWidth, noHeight, askedSides, derived]
  · have derived := deriveSide_exact (down noHeight noWidth)
    simp [noWidth, noHeight, askedSides, derived]
  · simp [noWidth, noHeight, askedSides]

/-! ## Settled sides -/

/-- Options that settle to others on a source.  No side is zero alone any more;
whatever was given is kept, and a missing side follows the proportions.  They are
the same options where there was nothing to derive and only there, and they stay as
they are on any source. -/
structure SettlesTo (o s : Options) (w h sw sh : ℕ) : Prop where
  paired : isZero s.width = isZero s.height
  width : w ≠ 0 → s.width = o.width
  height : h ≠ 0 → s.height = o.height
  derivedWidth : w = 0 → h ≠ 0 → s.width = .number (.int (exactSide h sh sw : ℕ))
  derivedHeight : h = 0 → w ≠ 0 → s.height = .number (.int (exactSide w sw sh : ℕ))
  others : s = { o with width := s.width, height := s.height }
  same : s = o ↔ o.derives = false
  stable : ∀ m n, s.resolve m n = .ok s

theorem settlesTo_completed (asks : o.Asks w h) : o.SettlesTo (o.completed w h sw sh) w h sw sh := by
  have settled : (o.completed w h sw sh).derives = false := derives_completed asks
  refine ⟨by simpa [derives] using settled, fun given => ?_, fun given => ?_, fun none_ some_ => ?_,
    fun none_ some_ => ?_, rfl, ⟨fun same => ?_, fun nothing => ?_⟩, resolve_of_settled settled⟩
  · exact if_neg fun missing => given missing.1
  · exact if_neg fun missing => given missing.1
  · exact if_pos ⟨none_, some_⟩
  · exact if_pos ⟨none_, some_⟩
  · rwa [same] at settled
  · rw [derives_of_asks asks, bne_eq_false_iff_eq, decide_eq_decide] at nothing
    rw [completed, if_neg (by tauto), if_neg (by tauto)]

/-- Derived sides are exact: where the products are not astronomical, the missing
side is the exact ratio rounded half up, one at least.  So options settle on any such
source, and they settle once. -/
theorem sides_settled (asks : o.Asks w h) (across : w = 0 → h ≠ 0 → Derivable h sh sw)
    (down : h = 0 → w ≠ 0 → Derivable w sw sh) :
    (∀ known sourceKnown sourceOther : ℕ, Derivable known sourceKnown sourceOther →
      deriveSide (.int known) (.int sourceKnown) (.int sourceOther) =
        .ok (max 1 ((2 * (known * sourceOther) + sourceKnown) / (2 * sourceKnown)) : ℕ)) ∧
      ∃ s, o.resolve (.int sw) (.int sh) = .ok s ∧ o.SettlesTo s w h sw sh :=
  ⟨fun _ _ _ derivable => deriveSide_exact derivable,
    o.completed w h sw sh, resolve_eq_completed asks across down, settlesTo_completed asks⟩

/-- A height of 25 on a source of 40 by 80 leaves a width of 12 and a half, and half of
`2 ^ 50 - 1` is a half as well: both are rounded up. -/
theorem halves_settled :
    deriveSide (.int (1 : ℕ)) (.int (2 : ℕ)) (.int (2 ^ 50 - 1 : ℕ)) = .ok (2 ^ 49) ∧
      ∃ s, Options.resolve { height := .number (.int 25), upscale := .flag true } (.int 40) (.int 80) =
          .ok s ∧
        s.width = .number (.int 13) ∧ s.height = .number (.int 25) ∧ s.upscale = .flag true ∧
          s.resolve (.int 7) (.int 3) = .ok s := by
  let o : Options := { height := .number (.int 25), upscale := .flag true }
  have asks : o.Asks 0 25 := ⟨rfl, rfl⟩
  have across : Derivable 25 80 40 := ⟨by decide, by decide, by decide⟩
  obtain ⟨exact_, s, resolved, settles⟩ :=
    sides_settled asks (fun _ _ => across) fun none_ => absurd none_ (by decide)
  refine ⟨exact_ 1 2 (2 ^ 50 - 1) ⟨by decide, by decide, by decide⟩, s, resolved,
    settles.derivedWidth rfl (by decide), settles.height (by decide), ?_, settles.stable _ _⟩
  rw [settles.others]

end Options

end Darkroom
