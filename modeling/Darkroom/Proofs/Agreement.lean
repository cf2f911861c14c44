/-
# Darkroom.Proofs.Agreement -- still pictures and animations agree

A still picture is worked on as it was decoded; a frame of an animation is laid
on an RGBA canvas first.  For an opaque picture the canvas is the picture in
RGBA (`Raster.overlaid_empty`), and it is reduced as the picture itself is
(`reduced_solid`).  So the first picture of an animation is the still answer in
the fixed palette, and the one request fails where the other does:
`animation_agrees_with_still`.
-/
import Darkroom.Proofs.Frames
import Darkroom.Proofs.Request
import Darkroom.Proofs.Solid
import Darkroom.Proofs.Written

namespace Darkroom

set_option autoImplicit false

namespace Animation

variable {r : Raster}

/-- An opaque picture is reduced in RGBA as in RGB. -/
theorem reduced_solid (isRgb : r.mode = .rgb) (step : Step) (o : Options) :
    reduced step o r.solid = reduced step o r := by
  have same : step.runsOn o r.solid = step.runsOn o r := Step.runsOn_congr step o rfl rfl
  rw [reduced, reduced, Step.runScaled_outcome, Step.runScaled_outcome, same]
  cases decided : step.runsOn o r with
  | error fault => rfl
  | ok runs =>
      cases runs
      case false => exact Raster.paletted_solid isRgb 256
      case true =>
        have ran := Step.run_solid isRgb step fun resampling =>
          Step.sides_pos_of_runsOn resampling decided
        cases drawn : step.run r with
        | error fault => simp [ran, drawn, Except.map]
        | ok p =>
            have rgb := (Step.run_mode drawn).trans isRgb
            simp [ran, drawn, Except.map, Raster.paletted_solid rgb]

end Animation

namespace Engine

/-- How the answer to a request as an animation goes with the answer to it as a
still picture: both fail alike, or the first picture of the animation is the still
one in the fixed palette.  Only damage further on in the file keeps the pictures
from being joined. -/
inductive Agree (damage : Option Damage) : Outcome Answer → Outcome Answer → Prop
  | refused (fault : Fault) : Agree damage (.error fault) (.error fault)
  | damaged (e : Encoding) (d : Damage) (met : damage = some d) :
      Agree damage (.ok (.encoded e)) (.error d.fault)
  | drawn (e : Encoding) (a : Animation) (picture reduced : Raster) (intact : damage = none)
      (one : e.pictures = [picture]) (reduces : picture.paletted 256 = .ok reduced)
      (first : (Encoding.animation a).pictures.head? = some reduced)
      (size : (Encoding.animation a).size = (picture.width, picture.height)) :
      Agree damage (.ok (.encoded e)) ((Encoding.ofAnimation a).map .encoded)

variable {c : Container} {first : Frame} {rest : List Frame} {step : Step} {o : Options}
  {r picture : Raster} {f sf : Format}

/-- What an opaque first frame becomes, where the file is not passed through. -/
theorem prepareAnimation_reduced (isRgb : r.mode = .rgb) (frames : c.frames = first :: rest)
    (made : first.picture.normalized = .ok r) (plain : animationStep step = step)
    (touched : (prepareAnimation (some c) step o).outcome ≠ .ok .unchanged) :
    (∀ fault, Animation.reduced step o r = .error fault →
      (prepareAnimation (some c) step o).outcome = .error fault) ∧
    ∀ p, Animation.reduced step o r = .ok p → match c.damage with
      | some d => (prepareAnimation (some c) step o).outcome = .error d.fault
      | none => ∃ a, (prepareAnimation (some c) step o).outcome = .ok (.animation a) ∧
          a.width = p.width ∧ a.height = p.height ∧
            (Encoding.animation a).pictures.head? = some p := by
  obtain ⟨width, height, -⟩ := Raster.pixelAt_of_normalized made isRgb
  have decision : step.runsOn o first.picture = step.runsOn o r :=
    Step.runsOn_congr step o width.symm height.symm
  have firstCanvas : Animation.reduced step o ((Animation.emptyCanvas first.picture.width
      first.picture.height).overlaid first.picture) = Animation.reduced step o r := by
    rw [Raster.overlaid_empty made isRgb, Animation.reduced_solid isRgb]
  cases decided : step.runsOn o r with
  | error fault =>
      have failed : Animation.reduced step o r = .error fault := by
        rw [Animation.reduced, Step.runScaled_outcome, decided]
        rfl
      refine ⟨fun other alike => ?_, fun p impossible => ?_⟩
      · rw [prepareAnimation_outcome frames, decision, decided, ← Except.error.inj
          (failed.symm.trans alike)]
        rfl
      · rw [failed] at impossible
        cases impossible
  | ok runs =>
      rw [prepareAnimation_transformed frames (decision.trans decided) touched, plain]
      refine ⟨fun fault failed => ?_, fun p accepted => ?_⟩
      · rw [Animation.transformed_of_fault frames (firstCanvas.trans failed)]
        rfl
      · have joined := Animation.transformed_of_first frames (firstCanvas.trans accepted)
        cases damage : c.damage with
        | some d =>
            rw [damage] at joined
            rw [joined]
            rfl
        | none =>
            rw [damage] at joined
            obtain ⟨a, joined, width, height, -, later, shots⟩ := joined
            rw [frames] at shots
            rw [joined]
            exact ⟨a, rfl, width, height, Encoding.head?_pictures shots⟩

/-- An RGB picture is encoded as it is by the formats that keep it. -/
theorem reply_of_rgb (given : Option Marks) (shelf : Shelf) (look : Lookup) {source : Opened}
    {operation quality : Value} (isRgb : picture.mode = .rgb) (keeps : f ∈ Encoding.lossless)
    (prepared : (prepare source operation o).outcome = .ok (.still picture f quality)) :
    reply given shelf look source operation o =
      .ok (.encoded (.single f picture quality)) := by
  have plain : (Prepared.still picture f quality).needsMarks = false := by
    cases f <;> first | rfl | exact absurd keeps (by decide)
  rw [reply_of_still prepared plain, Encoding.ofPicture_of_rgb isRgb keeps]
  rfl

/-- One request for an opaque picture, answered in a format that keeps it and as an
animation: the policy decides alike on every canvas, and the answers agree. -/
theorem animation_agrees_with_still {asStill asGif : FormatChoice} (given : Option Marks)
    (shelf : Shelf) (look : Lookup) (operation : Operation)
    (decoded : (Opened.still (some c)).outcome = .ok (r, sf)) (isRgb : r.mode = .rgb)
    (notFit : operation ≠ .fit) (valid : o.validate = .ok ()) (keeps : f ∈ Encoding.lossless)
    (stillFormat : answerFormat (some c) (o.withFormat asStill) = .ok f)
    (gifFormat : answerFormat (some c) (o.withFormat asGif) = .ok .gif)
    (stillTouched : reply given shelf look (some c) (.text operation.name) (o.withFormat asStill) ≠
      .ok .unchanged)
    (gifTouched : reply given shelf look (some c) (.text operation.name) (o.withFormat asGif) ≠
      .ok .unchanged) :
    (∀ canvas ∈ Animation.canvases r.width r.height c.frames,
      Step.policyFactor o canvas = Step.policyFactor o r) ∧
    Agree c.damage
      (reply given shelf look (some c) (.text operation.name) (o.withFormat asStill))
      (reply given shelf look (some c) (.text operation.name) (o.withFormat asGif)) := by
  refine ⟨fun canvas member => ?_, ?_⟩
  · obtain ⟨-, width, height⟩ := Animation.canvasesFrom_size _ _ canvas member
    exact Step.policyFactor_congr o width height
  obtain ⟨_, first, rest, same, frames, -, made⟩ := Opened.still_eq_ok decoded
  obtain rfl := Option.some.inj same
  have notGif : f ≠ .gif := by
    rintro rfl
    exact absurd keeps (by decide)
  have validAs (format : FormatChoice) : (o.withFormat format).validate = .ok () := valid
  have stillPath := prepare_of (.text operation.name) (validAs asStill) stillFormat
  have gifPath := prepare_of (.text operation.name) (validAs asGif) gifFormat
  rw [Step.build_withFormat] at stillPath gifPath
  cases built : Step.build (.text operation.name) o with
  | error fault =>
      rw [built] at stillPath gifPath
      rw [reply_of_fault stillPath, reply_of_fault gifPath]
      exact .refused fault
  | ok step =>
      rw [built, Outcome.ok_bind, if_neg notGif] at stillPath
      rw [built, Outcome.ok_bind, if_pos rfl] at gifPath
      rw [Ne, reply_unchanged_iff, stillPath] at stillTouched
      rw [Ne, reply_unchanged_iff, gifPath] at gifTouched
      rw [prepareStill_runScaled decoded stillTouched] at stillPath
      obtain ⟨refused, accepted⟩ := prepareAnimation_reduced isRgb frames made
        (animationStep_of_ne_fit notFit built) gifTouched
      -- The format has no part in how the step runs.
      have scaled (format : FormatChoice) :
          step.runScaled (o.withFormat format) r = step.runScaled o r := rfl
      have reduced : Animation.reduced step (o.withFormat asGif) r =
          (step.runScaled o r).outcome >>= fun picture => picture.paletted 256 := rfl
      rw [scaled] at stillPath
      cases ran : (step.runScaled o r).outcome with
      | error fault =>
          rw [ran] at stillPath reduced
          rw [reply_of_fault stillPath, reply_of_fault (gifPath.trans (refused fault reduced))]
          exact .refused fault
      | ok picture =>
          rw [ran] at stillPath reduced
          have rgb := (Step.runScaled_mode ran).trans isRgb
          have answered := reply_of_rgb given shelf look rgb keeps stillPath
          have reduces : picture.paletted 256 =
              .ok (picture.dithered .fixed Raster.fixedChart) := by
            rw [Raster.paletted, Raster.toRgb_of_rgb rgb]
            rfl
          have drawn := accepted _ (reduced.trans reduces)
          rw [answered]
          cases damage : c.damage with
          | some d =>
              rw [damage] at drawn
              rw [reply_of_fault (gifPath.trans drawn)]
              exact .damaged _ d rfl
          | none =>
              rw [damage] at drawn
              obtain ⟨a, prepared, width, height, head⟩ := drawn
              have size : (Encoding.animation a).size = (picture.width, picture.height) := by
                rw [Encoding.size, width, height]
                rfl
              rw [reply_of_animation (gifPath.trans prepared)]
              exact .drawn _ a picture _ rfl Encoding.pictures_single reduces head size

/-- A picture of four by two pixels enlarged, as a bitmap and as an animation. -/
theorem blackFile_enlarged_agrees : Agree none
    (reply none {} (Disk.read {}) (some (blackFile .png)) (.text Operation.resize.name)
      { width := .number (.int 8), upscale := .flag true, format := .format .bmp })
    (reply none {} (Disk.read {}) (some (blackFile .png)) (.text Operation.resize.name)
      { width := .number (.int 8), upscale := .flag true, format := .format .gif }) := by
  let o : Options := { width := .number (.int 8), upscale := .flag true }
  have valid : o.validate = .ok () := rfl
  have asBitmap : answerFormat (some (blackFile .png)) (o.withFormat (.format .bmp)) = .ok .bmp :=
    rfl
  have asGif : answerFormat (some (blackFile .png)) (o.withFormat (.format .gif)) = .ok .gif := rfl
  have allowed (format : FormatChoice) : (o.withFormat format).upscale.truthy = true := rfl
  exact (animation_agrees_with_still none {} (Disk.read {}) .resize (still_blackFile .png) rfl
    (by decide) valid (by decide) asBitmap asGif (reply_ne_unchanged_of_upscale (allowed _))
    (reply_ne_unchanged_of_upscale (allowed _))).2

end Engine

end Darkroom
