/-
# Darkroom.Proofs.Choosing -- a mark is always chosen

The choice of a mark looks at the dominant colour of a picture, which every picture of
an ordinary size has, and every colour has a score.  Such a picture is therefore always
stamped, if there is room to find its colour (`compose_found`).
-/
import Darkroom.Proofs.Sampling
import Darkroom.Proofs.Written

namespace Darkroom

set_option autoImplicit false

/-! ## The choice -/

namespace Watermark

/-- Every colour has a score. -/
theorem colorScore_found (c : Rgb) : ∃ score, colorScore c = .ok score := by
  have small : c.red.toNat < 2 ^ 31 := c.red.toNat_lt.trans (by norm_num)
  have share : Brightness.share (.int c.red.toNat) = .ok _ :=
    Dominant.div_found (n := 255) (by norm_num) small
  have channel : (Value.number (.int c.red.toNat)).toNumber = .ok (.int c.red.toNat) := rfl
  simp only [colorScore, Swatch.ofRgb, Swatch.channels, Brightness.markScore, channel,
    Brightness.channelScore, share, Outcome.ok_bind]
  split <;> exact ⟨_, rfl⟩

variable {base : Raster}

/-- The colour of a picture is reported as it is found. -/
theorem dominant_outcome (clusters edge : ℤ) :
    (dominant base clusters edge).outcome = Dominant.ofRaster base clusters edge := by
  rw [dominant, Logged.outcome_bind, Logged.outcome_lift]
  cases Dominant.ofRaster base clusters edge with
  | error fault => rfl
  | ok answer =>
      rw [Outcome.ok_bind]
      split <;> rfl

/-- A picture of an ordinary size has a dominant colour, if there is room to find it. -/
theorem dominant_found (colours : base.isConvertible = true) (wide : 0 < base.width)
    (tall : 0 < base.height) (narrow : base.width < 2 ^ 31) (low : base.height < 2 ^ 31) :
    Outcome.RoomAllows base.IsShort
      (dominant base Dominant.defaultClusters Dominant.defaultSample).outcome := by
  rw [dominant_outcome]
  exact Dominant.ofRaster_found (by decide) colours wide tall narrow low (by decide)

/-- The choice of a mark is made on the dominant colour alone. -/
theorem choose_eq_ok {choice : Choice} : (choose base).outcome = .ok choice ↔
    ∃ answer score, (dominant base Dominant.defaultClusters Dominant.defaultSample).outcome =
      .ok answer ∧ colorScore answer.color = .ok score ∧
        choice = ⟨.ofScore score, answer, score⟩ := by
  simp only [choose, Logged.outcome_bind, Logged.outcome_lift, Logged.outcome_pure,
    Outcome.bind_eq_ok]
  constructor
  · rintro ⟨answer, found, score, scored, -, -, made⟩
    exact ⟨answer, score, found, scored, (Except.ok.inj made).symm⟩
  · rintro ⟨answer, score, found, scored, rfl⟩
    exact ⟨answer, found, score, scored, (), rfl, rfl⟩

theorem choose_found (colours : base.isConvertible = true) (wide : 0 < base.width)
    (tall : 0 < base.height) (narrow : base.width < 2 ^ 31) (low : base.height < 2 ^ 31) :
    Outcome.RoomAllows base.IsShort (choose base).outcome := by
  obtain ⟨answer, reported⟩ | ⟨full, long⟩ := dominant_found colours wide tall narrow low
  · obtain ⟨score, scored⟩ := colorScore_found answer.color
    exact .inl ⟨_, choose_eq_ok.mpr ⟨answer, score, reported, scored, rfl⟩⟩
  · exact .inr ⟨by rw [choose, Logged.outcome_bind, full]; rfl, long⟩

theorem stamped_found (mark : Mark) (opacity : Int) (colours : base.isConvertible = true) :
    ∃ p, stamped base mark opacity = .ok p ∧ p.isConvertible = true := by
  obtain ⟨canvas, converted⟩ := base.toRgba_found colours
  rw [stamped, converted, Outcome.ok_bind]
  split <;> exact ⟨_, rfl, rfl⟩

/-- A picture of an ordinary size is stamped, if there is room to find its colour. -/
theorem compose_found (marks : Marks) (opacity : Int) (colours : base.isConvertible = true)
    (wide : 0 < base.width) (tall : 0 < base.height) (narrow : base.width < 2 ^ 31)
    (low : base.height < 2 ^ 31) :
    Outcome.RoomAllows base.IsShort (compose base marks opacity).outcome := by
  obtain ⟨choice, chosen⟩ | ⟨full, long⟩ := choose_found colours wide tall narrow low
  · obtain ⟨result, laid, -⟩ := stamped_found (marks.get choice.variant) opacity colours
    exact .inl ⟨(choice, result), compose_eq_ok.mpr ⟨chosen, laid⟩⟩
  · exact .inr ⟨by rw [compose, Logged.outcome_bind, full]; rfl, long⟩

/-- What is stamped has an RGB part of the size of the picture. -/
theorem toRgb_of_compose {marks : Marks} {opacity : Int} {choice : Choice} {stamp : Raster}
    (colours : base.isConvertible = true)
    (composed : (compose base marks opacity).outcome = .ok (choice, stamp)) :
    ∃ p, stamp.toRgb = .ok p ∧ p.width = base.width ∧ p.height = base.height := by
  obtain ⟨-, laid⟩ := compose_eq_ok.mp composed
  obtain ⟨result, again, rgb⟩ := stamped_found (marks.get choice.variant) opacity colours
  obtain rfl := Except.ok.inj (again.symm.trans laid)
  obtain ⟨p, made⟩ := result.toRgb_found rgb
  obtain ⟨width, height⟩ := compose_size composed
  obtain ⟨sameWidth, sameHeight⟩ := Raster.toRgb_size made
  exact ⟨p, made, sameWidth.trans width, sameHeight.trans height⟩

end Watermark

end Darkroom
