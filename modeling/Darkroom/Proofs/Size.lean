/-
# Darkroom.Proofs.Size -- how large the answer is

What a resample makes of a picture follows one law on both paths, `Sized`: a
declined step and a box without sides leave the size alone, resizing and filling
give the sides asked for, fitting stays inside the source, and nothing grows
unless enlarging is allowed.  Turning the result into a file changes no size
(`ofPicture_eq_ok`, `pictures_size`), and the pictures of an animation share that
of the first, so the law holds of every picture of an answer (`encoded_sized`).
-/
import Darkroom.Proofs.Frames
import Darkroom.Proofs.Request
import Darkroom.Proofs.Written

namespace Darkroom

set_option autoImplicit false

/-! ## The law -/

/-- The policy declines a resample of a picture. -/
def Declined (o : Options) (w h : ℕ) (source : Raster) : Prop :=
  o.upscale.truthy = false ∧ (source.width ≤ w ∨ source.height ≤ h)

/-- The sizes that a resample may come to; `fills` says that the sides asked for
are given, and else they are a box to stay in. -/
structure Sized (fills : Bool) (o : Options) (w h : ℕ) (source p : Raster) : Prop where
  kept : Declined o w h source ∨ (w = 0 ∧ h = 0) → p.width = source.width ∧ p.height = source.height
  asked : ¬Declined o w h source → ¬(w = 0 ∧ h = 0) → fills = true →
    Options.askedSides w h source.width source.height = .ok ((p.width : ℤ), (p.height : ℤ))
  boxed : fills = false → p.width ≤ source.width ∧ p.height ≤ source.height
  within : o.upscale.truthy = false → p.width ≤ source.width ∧ p.height ≤ source.height

/-- The law is one of sizes alone. -/
theorem Sized.congr {fills : Bool} {o : Options} {w h : ℕ} {source other p q : Raster}
    (sized : Sized fills o w h source p) (sourceWidth : source.width = other.width)
    (sourceHeight : source.height = other.height) (width : q.width = p.width)
    (height : q.height = p.height) : Sized fills o w h other q := by
  have same : Declined o w h other ↔ Declined o w h source := by
    rw [Declined, Declined, sourceWidth, sourceHeight]
  obtain ⟨kept, asked, boxed, within⟩ := sized
  rw [← same, sourceWidth, sourceHeight, ← width, ← height] at kept
  rw [← same, sourceWidth, sourceHeight, ← width, ← height] at asked
  rw [sourceWidth, sourceHeight, ← width, ← height] at boxed within
  exact ⟨kept, asked, boxed, within⟩

namespace Step

variable {step : Step} {o : Options} {w h : ℕ} {r p : Raster}

theorem not_declined_iff : ¬Declined o w h r ↔
    w < r.width ∧ h < r.height ∨ o.upscale.truthy = true := by
  rw [Declined, not_and_or, not_or, Nat.not_le, Nat.not_le, Bool.not_eq_false]
  exact or_comm

/-- A resample runs exactly where it is not declined. -/
theorem runs_iff_not_declined (resampling : step.resamples = true) (asks : o.Asks w h)
    (narrow : r.width < 2 ^ 31) (low : r.height < 2 ^ 31) {b : Bool}
    (decided : step.runsOn o r = .ok b) : b = true ↔ ¬Declined o w h r :=
  (runsOn_iff resampling asks narrow low decided).trans not_declined_iff.symm

/-- A resample under the policy keeps to the law. -/
theorem runScaled_sized (given : step.sides? = some (o.width, o.height)) (asks : o.Asks w h)
    (narrow : r.width < 2 ^ 31) (low : r.height < 2 ^ 31)
    (made : (step.runScaled o r).outcome = .ok p) : Sized step.fills o w h r p := by
  rw [runScaled_outcome] at made
  obtain ⟨runs, decided, made⟩ := Outcome.bind_eq_ok.mp made
  have resampling := resamples_of_sides given
  obtain ⟨wide, tall⟩ := sides_pos_of_runsOn resampling decided
  have exact_ := runs_iff_not_declined resampling asks narrow low decided
  cases runs
  case false =>
    have declined : Declined o w h r := not_not.mp fun not => absurd (exact_.mpr not) (by simp)
    obtain rfl := Except.ok.inj made
    exact ⟨fun _ => ⟨rfl, rfl⟩, fun not => absurd declined not,
      fun _ => ⟨le_refl _, le_refl _⟩, fun _ => ⟨le_refl _, le_refl _⟩⟩
  case true =>
    have allowed : ¬Declined o w h r := exact_.mp rfl
    by_cases nothing : w = 0 ∧ h = 0
    · obtain ⟨rfl, rfl⟩ := nothing
      obtain rfl := run_nothing given asks.width asks.height made
      exact ⟨fun _ => ⟨rfl, rfl⟩, fun _ some_ => absurd ⟨rfl, rfl⟩ some_,
        fun _ => ⟨le_refl _, le_refl _⟩, fun _ => ⟨le_refl _, le_refl _⟩⟩
    have kept (left : Declined o w h r ∨ (w = 0 ∧ h = 0)) :
        p.width = r.width ∧ p.height = r.height := absurd left (not_or.mpr ⟨allowed, nothing⟩)
    cases filling : step.fills
    case true =>
      have asked := run_asked filling given asks.width asks.height nothing made
      refine ⟨kept, fun _ _ _ => asked, fun boxing => (nomatch boxing), fun off => ?_⟩
      have within : w < r.width ∧ h < r.height :=
        (not_declined_iff.mp allowed).resolve_right (by simp [off])
      have le := Options.askedSides_le wide tall narrow low ⟨within.1.le, within.2.le⟩ asked
      exact ⟨by exact_mod_cast le.1, by exact_mod_cast le.2⟩
    case false =>
      have boxed :=
        run_boxed filling given asks.width asks.height wide tall narrow low nothing made
      exact ⟨kept, fun _ _ fills => (nomatch fills), fun _ => boxed, fun _ => boxed⟩

end Step

namespace Engine

variable {c : Container} {r : Raster} {f sf : Format} {o : Options} {step : Step} {w h : ℕ}

theorem still_sized {picture : Raster} {format : Format} {quality : Value}
    (decoded : (Opened.still (some c)).outcome = .ok (r, sf))
    (sides : step.sides? = some (o.width, o.height)) (asks : o.Asks w h)
    (narrow : r.width < 2 ^ 31) (low : r.height < 2 ^ 31)
    (prepared : (prepareStill (some c) step o f).outcome = .ok (.still picture format quality)) :
    Sized step.fills o w h r picture := by
  rw [prepareStill_runScaled decoded (by rw [prepared]; simp)] at prepared
  obtain ⟨p, ran, same⟩ := Outcome.map_eq_ok.mp prepared
  cases same
  exact Step.runScaled_sized sides asks narrow low ran

theorem animation_sized {a : Animation} (decoded : (Opened.still (some c)).outcome = .ok (r, sf))
    (sides : step.sides? = some (o.width, o.height)) (asks : o.Asks w h)
    (narrow : r.width < 2 ^ 31) (low : r.height < 2 ^ 31)
    (prepared : (prepareAnimation (some c) step o).outcome = .ok (.animation a)) :
    ∀ p ∈ (Encoding.animation a).pictures, Sized true o w h r p := by
  obtain ⟨_, first, rest, same, frames, -, made⟩ := Opened.still_eq_ok decoded
  obtain rfl := Option.some.inj same
  obtain ⟨width, height⟩ := Raster.normalized_size made
  obtain ⟨animationSides, fills⟩ := sides_animationStep sides
  obtain ⟨pictures, all, -, wide, tall, -⟩ :=
    Animation.transformed_eq_ok (transformed_of_prepared frames prepared)
  rw [frames, Animation.canvases, Animation.canvasesFrom, List.forall₂_cons_left_iff] at all
  obtain ⟨q, later, reduced, -, rfl⟩ := all
  obtain ⟨drawn, ran, reduced⟩ := Outcome.bind_eq_ok.mp reduced
  have canvasWidth : ((Animation.emptyCanvas first.picture.width first.picture.height).overlaid
      first.picture).width = r.width := width.symm
  have canvasHeight : ((Animation.emptyCanvas first.picture.width first.picture.height).overlaid
      first.picture).height = r.height := height.symm
  have sized := Step.runScaled_sized animationSides asks (canvasWidth ▸ narrow)
    (canvasHeight ▸ low) ran
  obtain ⟨sameWidth, sameHeight⟩ := Raster.paletted_size reduced
  intro p member
  obtain ⟨written, writtenTall⟩ := Encoding.pictures_size _ p member
  rw [fills] at sized
  exact sized.congr canvasWidth canvasHeight (written.trans (wide.trans sameWidth))
    (writtenTall.trans (tall.trans sameHeight))

/-- On an animation fitting is filling. -/
theorem prepare_fit_eq {source : Opened} (found : answerFormat source o = .ok .gif) :
    prepare source (.text Operation.fit.name) o =
      prepare source (.text Operation.thumbnail.name) o := by
  obtain ⟨requested, asked, found⟩ := Outcome.bind_eq_ok.mp found
  unfold prepare
  simp only [asked, found, Logged.lift_ok_bind, Step.build_name, if_true]
  rfl

/-- Every picture of an answer keeps to the law.  Only fitting a still picture stays
in a box, and as an animation fitting is answered as filling is. -/
theorem encoded_sized {e : Encoding} (given : Option Marks) (shelf : Shelf) (look : Lookup)
    (known : Operation) (resample : known.isResample = true)
    (decoded : (Opened.still (some c)).outcome = .ok (r, sf)) (narrow : r.width < 2 ^ 31)
    (low : r.height < 2 ^ 31) (asks : o.Asks w h) (found : answerFormat (some c) o = .ok f)
    (answered : reply given shelf look (some c) (.text known.name) o = .ok (.encoded e)) :
    (∀ p ∈ e.pictures, Sized (decide (known ≠ .fit ∨ f = .gif)) o w h r p) ∧
    ∀ (source : Opened) (any : Options), answerFormat source any = .ok .gif →
      transform given shelf look source (.text Operation.fit.name) any =
        transform given shelf look source (.text Operation.thumbnail.name) any := by
  refine ⟨?_, fun source any asGif => by rw [transform, prepare_fit_eq asGif, transform]⟩
  obtain ⟨prepared, marks, made, finished⟩ := prepared_of_reply answered
  obtain ⟨step, f', found', built, made⟩ := built_of_prepare made
  obtain rfl := Except.ok.inj (found.symm.trans found')
  obtain ⟨sides, fills⟩ := Step.sides_of_build resample built
  split_ifs at made with isGif
  · obtain ⟨_, first, rest, same, frames, -, -⟩ := Opened.still_eq_ok decoded
    obtain rfl := Option.some.inj same
    rw [decide_eq_true (.inr isGif)]
    rcases finish_eq_encoded finished with ⟨picture, format, quality, rfl, -⟩ | ⟨a, rfl, encoded⟩
    · rcases prepareAnimation_cases frames made with impossible | ⟨a, impossible⟩ <;>
        cases impossible
    · obtain ⟨rfl, -⟩ := Encoding.ofAnimation_eq_ok.mp encoded
      exact animation_sized decoded sides asks narrow low made
  · have filling : decide (known ≠ .fit ∨ f = .gif) = step.fills := by
      rw [fills, decide_eq_decide]
      exact or_iff_left isGif
    rw [filling]
    rcases finish_eq_encoded finished with ⟨picture, format, quality, rfl, encoded⟩ | ⟨a, rfl, -⟩
    · obtain ⟨p, rfl, width, height⟩ := Encoding.ofPicture_eq_ok encoded
      rw [Encoding.pictures_single, List.forall_mem_singleton]
      exact (still_sized decoded sides asks narrow low made).congr rfl rfl width height
    · rcases prepareStill_cases decoded made with impossible | ⟨picture, impossible⟩ <;>
        cases impossible

/-- Two pixels are asked for across, half of what is there: the height follows. -/
theorem blackFile_halved : ∃ e, reply none {} (Disk.read {}) (some (blackFile .png))
    (.text Operation.resize.name) { width := .number (.int 2) } = .ok (.encoded e) ∧
      ∀ p ∈ e.pictures, p.width = 2 ∧ p.height = 1 := by
  let o : Options := { width := .number (.int 2) }
  let r : Raster := .filled .rgb 4 2 fun _ => 0
  let step : Step := .resize o.width o.height
  have asks : o.Asks 2 0 := ⟨rfl, rfl⟩
  have valid : o.validate = .ok () := rfl
  have found : answerFormat (some (blackFile .png)) o = .ok .png := rfl
  have decoded : (Opened.still (some (blackFile .png))).outcome = .ok (r, .png) :=
    still_blackFile .png
  have asked : Options.askedSides 2 0 r.width r.height = .ok (2, 1) :=
    Outcome.eq_ok_of_toOption (by decide +kernel)
  -- The step runs and gives a picture, which PNG keeps.
  have fits : ((2 : ℕ) : ℚ) / (4 : ℕ) ≤ Number.largestDouble ∧
      ((0 : ℕ) : ℚ) / (2 : ℕ) ≤ Number.largestDouble := by
    decide +kernel
  have allowed : 2 < r.width ∧ 0 < r.height ∨ o.upscale.truthy = true := .inl (by decide)
  have wide : 0 < r.width := by decide
  have tall : 0 < r.height := by decide
  obtain ⟨runs, decided⟩ := step.runsOn_found asks wide tall fits.1 fits.2
  have declined : ¬Declined o 2 0 r := Step.not_declined_iff.mpr allowed
  obtain rfl := (Step.runsOn_iff rfl asks (by decide) (by decide) decided).mpr allowed
  obtain ⟨p, drawn⟩ : ∃ p, step.run r = .ok p :=
    Step.run_resize_found rfl rfl (by decide) asked
      ⟨⟨by decide, by decide⟩, by decide, by decide⟩
  have prepared : (prepare (some (blackFile .png)) (.text Operation.resize.name) o).outcome =
      .ok (.still p .png o.quality) := by
    rw [prepare_of _ valid found]
    change (prepareStill (some (blackFile .png)) step o .png).outcome = _
    rw [prepareStill_outcome decoded, decided, Outcome.ok_bind, if_pos rfl, drawn]
    rfl
  obtain ⟨e, answered⟩ : ∃ e, reply none {} (Disk.read {}) (some (blackFile .png))
      (.text Operation.resize.name) o = .ok (.encoded e) := by
    rw [reply_of_still prepared rfl, Encoding.ofPicture_of_rgb (Step.run_mode drawn) (by decide)]
    exact ⟨_, rfl⟩
  refine ⟨e, answered, fun p member => ?_⟩
  have law := (encoded_sized none {} (Disk.read {}) .resize rfl decoded (by decide)
    (by decide) asks found answered).1 p member
  have sides := law.asked declined (by decide) (by decide)
  have sides := Prod.mk.inj (Except.ok.inj (asked.symm.trans sides))
  exact ⟨by omega, by omega⟩

end Engine

end Darkroom
