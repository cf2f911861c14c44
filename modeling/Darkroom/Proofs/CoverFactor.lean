/-
# Darkroom.Proofs.CoverFactor -- how the factor of the policy moves with the sides

The factor by which a source has to grow to cover a box is the larger of two rounded
ratios (`factorOf_eq`).  Rounding keeps the order of ratios, so the factor grows with
the box and shrinks with the source (`coverFactor_mono`); it is a function of the
ratios themselves, so equal proportions have the same factor to the last bit
(`coverFactor_congr`); and a side of the box that is zero has the least ratio there is.

What the policy declines it declines for every larger factor (`declines_mono`), and
that is so for whole requests: where the source is the answer, it is the answer to
every resample that asks for larger sides on the same terms (`reply_larger`).
-/
import Darkroom.Proofs.Request

namespace Darkroom

set_option autoImplicit false

open Number

namespace Scaling

/-- A source with pixels, and a box whose ratios to it are doubles. -/
structure Comparable (sw sh w h : ℕ) : Prop where
  wide : 0 < sw
  tall : 0 < sh
  across : (w : ℚ) / sw ≤ largestDouble
  down : (h : ℚ) / sh ≤ largestDouble

variable {sw sh w h sw' sh' w' h' : ℕ} {width height : Value}

/-- The factor of comparable sides: each ratio is rounded once, and the larger one counts. -/
theorem factorOf_eq (sides : Comparable sw sh w h) (asksWidth : width.number? = some (.int w))
    (asksHeight : height.number? = some (.int h)) :
    factorOf sw sh width height =
      .ok (.finite (max (nearest ((w : ℚ) / sw)) (nearest ((h : ℚ) / sh)))) := by
  obtain ⟨wide, tall, across, down⟩ := sides
  obtain ⟨x, found⟩ := factor_found wide tall asksWidth asksHeight across down
  rw [found, factor_eq_ok wide tall asksWidth asksHeight found]

/-- A longer side over a shorter one is no smaller ratio. -/
theorem ratio_mono (positive : 0 < sw') (shorter : sw' ≤ sw) (longer : w ≤ w') :
    (w : ℚ) / sw ≤ (w' : ℚ) / sw' := by
  have positive : (0 : ℚ) < sw' := by exact_mod_cast positive
  gcongr

theorem nearest_ratio_mono (positive : 0 < sw') (shorter : sw' ≤ sw) (longer : w ≤ w') :
    nearest ((w : ℚ) / sw) ≤ nearest ((w' : ℚ) / sw') :=
  nearest_mono (by positivity) (ratio_mono positive shorter longer)

/-- A smaller box for a larger source has its ratios in range too. -/
theorem Comparable.shrink (sides : Comparable sw' sh' w' h') (narrower : sw' ≤ sw)
    (lower : sh' ≤ sh) (wider : w ≤ w') (taller : h ≤ h') : Comparable sw sh w h where
  wide := sides.wide.trans_le narrower
  tall := sides.tall.trans_le lower
  across := (ratio_mono sides.wide narrower wider).trans sides.across
  down := (ratio_mono sides.tall lower taller).trans sides.down

theorem Comparable.swap (sides : Comparable sw sh w h) : Comparable sh sw h w :=
  ⟨sides.tall, sides.wide, sides.down, sides.across⟩

/-- Ratios that are equal crosswise are equal. -/
theorem div_congr (positive : 0 < sw) (positive' : 0 < sw') (cross : w * sw' = w' * sw) :
    (Number.int w).div (.int sw) = (Number.int w').div (.int sw') := by
  rw [div_natCast w positive, div_natCast w' positive']
  congr 1
  rw [div_eq_div_iff (by positivity) (by positivity)]
  exact_mod_cast cross

/-- The factor of whole sides. -/
def coverFactor (sw sh w h : ℕ) : Outcome Double :=
  factorOf sw sh (.number (.int w)) (.number (.int h))

theorem coverFactor_div (wide : 0 < sw) (tall : 0 < sh) : coverFactor sw sh w h = (do
    let across ← Outcome.ofArithmetic ((Number.int w).div (.int sw))
    let down ← Outcome.ofArithmetic ((Number.int h).div (.int sh))
    return larger across down) := factor_natCast wide tall rfl rfl

/-- The factor depends on the proportions of the source to the box only. -/
theorem coverFactor_congr (wide : 0 < sw) (tall : 0 < sh) (wide' : 0 < sw') (tall' : 0 < sh')
    (across : w * sw' = w' * sw) (down : h * sh' = h' * sh) :
    coverFactor sw sh w h = coverFactor sw' sh' w' h' := by
  rw [coverFactor_div wide tall, coverFactor_div wide' tall', div_congr wide wide' across,
    div_congr tall tall' down]

/-! ## The laws of the factor -/

theorem coverFactor_eq (sides : Comparable sw sh w h) :
    coverFactor sw sh w h =
      .ok (.finite (max (nearest ((w : ℚ) / sw)) (nearest ((h : ℚ) / sh)))) :=
  factorOf_eq sides rfl rfl

/-- A larger box for a smaller source has no smaller factor. -/
theorem coverFactor_mono (sides : Comparable sw' sh' w' h') (narrower : sw' ≤ sw)
    (lower : sh' ≤ sh) (wider : w ≤ w') (taller : h ≤ h') :
    ∃ x y, coverFactor sw sh w h = .ok (.finite x) ∧
      coverFactor sw' sh' w' h' = .ok (.finite y) ∧ x ≤ y := by
  have inner := sides.shrink narrower lower wider taller
  refine ⟨_, _, coverFactor_eq inner, coverFactor_eq sides, max_le_max ?_ ?_⟩
  · exact nearest_ratio_mono sides.wide narrower wider
  · exact nearest_ratio_mono sides.tall lower taller

theorem coverFactor_scaled {k : ℕ} (positive : 0 < k) (wide : 0 < sw) (tall : 0 < sh) :
    coverFactor (k * sw) (k * sh) (k * w) (k * h) = coverFactor sw sh w h := by
  apply coverFactor_congr (Nat.mul_pos positive wide) (Nat.mul_pos positive tall) wide tall <;>
    ring

/-- A source and a box that are both turned keep their factor. -/
theorem coverFactor_swap (sides : Comparable sw sh w h) :
    coverFactor sw sh w h = coverFactor sh sw h w := by
  rw [coverFactor_eq sides, coverFactor_eq sides.swap, max_comm]

/-- A side of the box that is zero leaves the factor to the other side. -/
theorem coverFactor_zero_height (sides : Comparable sw sh w 0) :
    coverFactor sw sh w 0 = .ok (.finite (nearest ((w : ℚ) / sw))) := by
  rw [coverFactor_eq sides, Nat.cast_zero, zero_div, nearest_zero,
    max_eq_left (nearest_nonneg (by positivity))]

theorem coverFactor_zero_width (sides : Comparable sw sh 0 h) :
    coverFactor sw sh 0 h = .ok (.finite (nearest ((h : ℚ) / sh))) := by
  rw [coverFactor_swap sides, coverFactor_zero_height sides.swap]

/-! ## The policy on larger boxes -/

theorem runs_finite {x : ℚ} {upscale : Bool} :
    runs (.finite x) upscale = false ↔ 1 ≤ x ∧ upscale = false := by
  rw [runs, Double.lt_finite, Bool.or_eq_false_iff, decide_eq_false_iff_not, not_lt]

/-- What the policy declines it declines for every larger factor. -/
theorem declines_mono {x y : ℚ} {upscale : Bool} (larger : x ≤ y)
    (declined : runs (.finite x) upscale = false) : runs (.finite y) upscale = false := by
  rw [runs_finite] at declined ⊢
  exact ⟨declined.1.trans larger, declined.2⟩

end Scaling

/-! ## Requests for larger sides -/

/-- A request on the same terms for sides that are no smaller. -/
structure Options.Enlarges (o o' : Options) (w h w' h' : ℕ) : Prop where
  asks : o.Asks w h
  asks' : o'.Asks w' h'
  wider : w ≤ w'
  taller : h ≤ h'
  upscale : o'.upscale.truthy = o.upscale.truthy
  format : o'.format = o.format
  quality : o'.quality = o.quality

section Larger

variable {o o' : Options} {w h w' h' : ℕ} {step step' : Step} {r : Raster}

/-- Of a request for whole sides only the quality is left to look at. -/
theorem Options.Asks.validate (asks : o.Asks w h) : o.validate = (do
    let quality ← o.quality.toNumber
    if (Number.int 0).le quality && quality.le (.int 100) then return ()
    else .error (.rejected (.qualityRange o.quality))) := by
  have nonneg (n : ℕ) : (Number.int n).lt (.int 0) = false := by simp [Number.lt]
  simp only [Options.validate, Value.toNumber_of_number? asks.width,
    Value.toNumber_of_number? asks.height, Outcome.ok_bind, nonneg, Bool.false_eq_true, if_false]

namespace Options.Enlarges

theorem validate (larger : o.Enlarges o' w h w' h') : o'.validate = o.validate := by
  rw [larger.asks.validate, larger.asks'.validate, larger.quality]

theorem answerFormat (larger : o.Enlarges o' w h w' h') (source : Opened) :
    Engine.answerFormat source o' = Engine.answerFormat source o := by
  simp only [Engine.answerFormat, Options.requestedFormat, larger.format]

/-- A resample that is declined is declined for larger sides, whatever resample it is. -/
theorem declined (larger : o.Enlarges o' w h w' h') (resampling : step'.resamples = true)
    (sides : Scaling.Comparable r.width r.height w' h')
    (declined : step.runsOn o r = .ok false) : step'.runsOn o' r = .ok false := by
  have inner := sides.shrink le_rfl le_rfl larger.wider larger.taller
  have found := Scaling.factorOf_eq inner larger.asks.width larger.asks.height
  have found' := Scaling.factorOf_eq sides larger.asks'.width larger.asks'.height
  have ordered := max_le_max (Scaling.nearest_ratio_mono sides.wide le_rfl larger.wider)
    (Scaling.nearest_ratio_mono sides.tall le_rfl larger.taller)
  rw [Step.runsOn, if_pos (Step.resamples_of_declined declined), Step.policyFactor, found,
    Outcome.ok_bind] at declined
  rw [Step.runsOn, if_pos resampling, Step.policyFactor, found', Outcome.ok_bind, larger.upscale]
  exact congrArg Except.ok (Scaling.declines_mono ordered (Except.ok.inj declined))

end Options.Enlarges

end Larger

namespace Engine

open Scaling (Comparable coverFactor coverFactor_eq coverFactor_mono coverFactor_congr
  coverFactor_scaled coverFactor_zero_height coverFactor_zero_width)

variable {o o' : Options} {w h w' h' : ℕ} {c : Container} {first : Frame} {rest : List Frame}

/-- Where the source is the answer to a request, it is the answer to every resample for
larger sides on the same terms. -/
theorem reply_larger (larger : o.Enlarges o' w h w' h') (frames : c.frames = first :: rest)
    (sides : Scaling.Comparable first.picture.width first.picture.height w' h')
    {given given' : Option Marks} {shelf shelf' : Shelf} {look look' : Lookup} {operation : Value}
    {known : Operation} (resample : known.isResample = true)
    (passed : reply given shelf look (some c) operation o = .ok .unchanged) :
    reply given' shelf' look' (some c) (.text known.name) o' = .ok .unchanged := by
  rw [reply_unchanged_iff] at passed ⊢
  obtain ⟨step, f, found, -, prepared⟩ := built_of_prepare passed
  obtain ⟨step', built', resampling⟩ := Step.built_of_isResample resample o'
  have valid : o'.validate = .ok () := larger.validate.trans (valid_of_prepare passed)
  rw [prepare_of _ valid ((larger.answerFormat _).trans found), built', Outcome.ok_bind]
  split_ifs at prepared ⊢ with isGif
  · rw [prepareAnimation_unchanged_iff frames] at prepared ⊢
    exact ⟨larger.declined resampling sides prepared.1, prepared.2⟩
  · cases decoded : (Opened.still (some c)).outcome with
    | error fault => simp [prepareStill, decoded] at prepared
    | ok opened =>
        obtain ⟨r, sf⟩ := opened
        obtain ⟨width, height⟩ :=
          Raster.normalized_size (Opened.normalized_of_still frames decoded)
        rw [prepareStill_unchanged_iff decoded] at prepared ⊢
        rw [← width, ← height] at sides
        exact ⟨larger.declined resampling sides prepared.1, prepared.2⟩

/-- The factor is the larger of the two rounded ratios.  It grows with the box and
shrinks with the source, hangs on the proportions alone and on a side of the box that
is zero not at all; so what is passed through is passed through for larger sides too. -/
theorem cover_laws :
    (∀ {sw sh w h : ℕ}, Comparable sw sh w h → coverFactor sw sh w h =
      .ok (.finite (max (nearest ((w : ℚ) / sw)) (nearest ((h : ℚ) / sh))))) ∧
    (∀ {sw sh w h sw' sh' w' h' : ℕ}, Comparable sw' sh' w' h' → sw' ≤ sw → sh' ≤ sh →
      w ≤ w' → h ≤ h' → ∃ x y, coverFactor sw sh w h = .ok (.finite x) ∧
        coverFactor sw' sh' w' h' = .ok (.finite y) ∧ x ≤ y) ∧
    (∀ {sw sh w h sw' sh' w' h' : ℕ}, 0 < sw → 0 < sh → 0 < sw' → 0 < sh' →
      w * sw' = w' * sw → h * sh' = h' * sh → coverFactor sw sh w h = coverFactor sw' sh' w' h') ∧
    (∀ {sw sh k : ℕ} (w h : ℕ), 0 < sw → 0 < sh → 0 < k →
      coverFactor (k * sw) (k * sh) (k * w) (k * h) = coverFactor sw sh w h) ∧
    (∀ {sw sh s : ℕ}, Comparable sw sh s 0 →
      coverFactor sw sh s 0 = .ok (.finite (nearest ((s : ℚ) / sw)))) ∧
    (∀ {sw sh s : ℕ}, Comparable sw sh 0 s →
      coverFactor sw sh 0 s = .ok (.finite (nearest ((s : ℚ) / sh)))) ∧
    ∀ {o o' : Options} {w h w' h' : ℕ}, o.Enlarges o' w h w' h' →
      ∀ {c : Container} {first : Frame} {rest : List Frame}, c.frames = first :: rest →
      Comparable first.picture.width first.picture.height w' h' →
      ∀ (given given' : Option Marks) (shelf shelf' : Shelf) (look look' : Lookup)
        (operation : Value) (known : Operation), known.isResample = true →
      reply given shelf look (some c) operation o = .ok .unchanged →
      reply given' shelf' look' (some c) (.text known.name) o' = .ok .unchanged := by
  refine ⟨coverFactor_eq, coverFactor_mono, coverFactor_congr, ?scaled, coverFactor_zero_height,
    coverFactor_zero_width, ?passed⟩
  case scaled => exact fun w h wide tall positive => coverFactor_scaled positive wide tall
  case passed =>
    intro o o' w h w' h' larger c first rest frames sides given given' shelf shelf' look look'
      operation known resample passed
    exact reply_larger larger frames sides resample passed

/-- A file that is passed through for its own width is passed through for a larger box. -/
theorem blackFile_passes_larger :
    reply none {} (Disk.read {}) (some (blackFile .png)) (.text Operation.resize.name)
      { width := .number (.int 4) } = .ok .unchanged ∧
    reply none {} (Disk.read {}) (some (blackFile .png)) (.text Operation.thumbnail.name)
      { width := .number (.int 9), height := .number (.int 7) } = .ok .unchanged := by
  let o : Options := { width := .number (.int 4) }
  let o' : Options := { width := .number (.int 9), height := .number (.int 7) }
  have larger : o.Enlarges o' 4 0 9 7 :=
    ⟨⟨rfl, rfl⟩, ⟨rfl, rfl⟩, by decide, by decide, rfl, rfl, rfl⟩
  have sides : Comparable 4 2 9 7 := ⟨by decide, by decide, by decide +kernel, by decide +kernel⟩
  have passed : reply none {} (Disk.read {}) (some (blackFile .png)) (.text Operation.resize.name)
      o = .ok .unchanged := by
    let black : Raster := .filled .rgb 4 2 fun _ => 0
    have inner := sides.shrink (le_refl 4) (le_refl 2) (show 4 ≤ 9 by decide) (Nat.zero_le 7)
    obtain ⟨runs, decided⟩ := Step.runsOn_found (r := black) (.resize o.width o.height)
      larger.asks inner.wide inner.tall inner.across inner.down
    have stays : runs = false := by
      rw [← Bool.not_eq_true, Step.runsOn_iff rfl larger.asks (by decide) (by decide) decided]
      decide
    rw [reply_unchanged_iff, prepare_of (f := .png) _ rfl rfl]
    exact (prepareStill_unchanged_iff (still_blackFile .png)).mpr ⟨stays ▸ decided, rfl⟩
  exact ⟨passed, cover_laws.2.2.2.2.2.2 larger rfl sides none none {} {} (Disk.read {})
    (Disk.read {}) _ .thumbnail rfl passed⟩

end Engine

end Darkroom
