/-
# Darkroom.Proofs.PassThrough -- when the source itself is the answer

A still answer is the source itself where the policy declines and the format
stays, an animation where the policy declines and the file is an animation by
kind.  Where GIF files have one tag only both are one rule, and for whole sides the
policy is exact, so the rule is one of whole numbers: `reply_unchanged_exact`.
-/
import Darkroom.Proofs.Request

namespace Darkroom

set_option autoImplicit false

namespace Container

/-- Where GIF has one tag only, a file is an animation by kind when GIF is its format. -/
theorem isAnimationFile_iff {c : Container} {f : Format} (known : c.format? = some f)
    (named : f = .gif → c.tag = Format.gif.tag) : c.isAnimationFile = true ↔ f = .gif := by
  rw [isAnimationFile, beq_iff_eq]
  refine ⟨fun tagged => ?_, named⟩
  exact Option.some.inj (known.symm.trans (format?_of_tag tagged))

end Container

namespace Engine

variable {c : Container} {r : Raster} {f sf : Format} {operation : Value} {o : Options}
  {step : Step}

/-- Still or animation, a file is passed through where its step is declined and
its format stays. -/
theorem prepare_unchanged_iff (named : sf = .gif → c.tag = Format.gif.tag)
    (decoded : (Opened.still (some c)).outcome = .ok (r, sf)) (valid : o.validate = .ok ())
    (found : answerFormat (some c) o = .ok f) (built : Step.build operation o = .ok step) :
    (prepare (some c) operation o).outcome = .ok .unchanged ↔
      step.runsOn o r = .ok false ∧ f = sf := by
  rw [prepare_of operation valid found, built, Outcome.ok_bind]
  split_ifs with isGif
  · obtain ⟨_, first, rest, same, frames, known, made⟩ := Opened.still_eq_ok decoded
    obtain rfl := Option.some.inj same
    obtain ⟨width, height⟩ := Raster.normalized_size made
    rw [prepareAnimation_unchanged_iff frames, Container.isAnimationFile_iff known named, isGif,
      Step.runsOn_congr step o width height]
    exact and_congr_right' eq_comm
  · exact prepareStill_unchanged_iff decoded

/-- The source is the answer to a resample exactly where enlarging is not allowed,
the format stays and a side that is asked for is not below that of the source.  It
is never the answer to a turn. -/
theorem reply_unchanged_exact {w h : ℕ} (given : Option Marks) (shelf : Shelf) (look : Lookup)
    (known : Operation) (named : sf = .gif → c.tag = Format.gif.tag)
    (decoded : (Opened.still (some c)).outcome = .ok (r, sf)) (wide : 0 < r.width)
    (tall : 0 < r.height) (narrow : r.width < 2 ^ 31) (low : r.height < 2 ^ 31)
    (valid : o.validate = .ok ()) (asks : o.Asks w h) (found : answerFormat (some c) o = .ok f)
    (fitsAcross : (w : ℚ) / r.width ≤ Number.largestDouble)
    (fitsDown : (h : ℚ) / r.height ≤ Number.largestDouble) :
    (known.isResample = true →
      (reply given shelf look (some c) (.text known.name) o = .ok .unchanged ↔
        o.upscale.truthy = false ∧ f = sf ∧ (r.width ≤ w ∨ r.height ≤ h))) ∧
    ∀ turning : Operation, turning.isResample = false → ∀ (source : Opened) (any : Options),
      reply given shelf look source (.text turning.name) any ≠ .ok .unchanged := by
  refine ⟨fun resample => ?_, fun turning turn source any passed => ?_⟩
  · obtain ⟨step, built⟩ : ∃ step, Step.build (.text known.name) o = .ok step := by
      rw [Step.build_name]
      cases known <;> first | exact ⟨_, rfl⟩ | cases resample
    have resampling : step.resamples = true := (Step.resamples_of_build built).trans resample
    obtain ⟨runs, decided⟩ := Step.runsOn_found step asks wide tall fitsAcross fitsDown
    have exact_ := Step.runsOn_iff resampling asks narrow low decided
    rw [reply_unchanged_iff, prepare_unchanged_iff named decoded valid found built, decided]
    have declined : Except.ok (ε := Fault) runs = .ok false ↔ ¬ runs = true := by
      cases runs <;> simp
    rw [declined, exact_, not_or, not_and_or, Nat.not_lt, Nat.not_lt, Bool.not_eq_true]
    exact ⟨fun ⟨⟨reached, off⟩, same⟩ => ⟨off, same, reached⟩,
      fun ⟨off, same, reached⟩ => ⟨⟨reached, off⟩, same⟩⟩
  · obtain ⟨step, picture, built, declined⟩ := declined_of_unchanged (reply_unchanged_iff.mp passed)
    rw [Step.runsOn, Step.resamples_of_build built, turn] at declined
    cases declined

/-- Four pixels are asked for across and four are there: the file is passed through. -/
theorem blackFile_passes_through : reply none {} (Disk.read {}) (some (blackFile .png))
    (.text Operation.resize.name) { width := .number (.int 4) } = .ok .unchanged := by
  let o : Options := { width := .number (.int 4) }
  have valid : o.validate = .ok () := rfl
  have asks : o.Asks 4 0 := ⟨rfl, rfl⟩
  have found : answerFormat (some (blackFile .png)) o = .ok .png := rfl
  have named : Format.png = .gif → (blackFile .png).tag = Format.gif.tag := by decide
  have fits : ((4 : ℕ) : ℚ) / (4 : ℕ) ≤ Number.largestDouble ∧
      ((0 : ℕ) : ℚ) / (2 : ℕ) ≤ Number.largestDouble := by
    decide +kernel
  have rule := reply_unchanged_exact none {} (Disk.read {}) .resize named (still_blackFile .png)
    (by decide) (by decide) (by decide) (by decide) valid asks found fits.1 fits.2
  exact (rule.1 rfl).mpr ⟨rfl, rfl, .inl (le_refl _)⟩

end Engine

end Darkroom
