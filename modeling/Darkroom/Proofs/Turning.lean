/-
# Darkroom.Proofs.Turning -- a settled animation, turned over once

An animation as it is written is `Settled`: its pictures are in the fixed
palette, no two neighbours are alike, and its numbers fit the fields of its file.
A file that gives back what was written (`ReadsBack`) shows each of these
pictures on its canvas, so a request that turns it over gives the same shots laid
another way, `IsLaid`, and that is settled again (`reply_turn`).
-/
import Darkroom.Proofs.FixedPictures
import Darkroom.Proofs.Frames
import Darkroom.Proofs.Motions
import Darkroom.Proofs.Written

namespace Darkroom

set_option autoImplicit false

/-! ## Requests -/

/-- A request that turns a file over and keeps its format or asks for GIF. -/
structure Turn where
  operation : Operation
  options : Options
  motion : Motion
  named : Motion.Named operation options motion
  valid : options.validate = .ok ()
  asksGif : options.requestedFormat = .ok none ∨ options.requestedFormat = .ok (some .gif)

/-! ## Shots and animations laid another way -/

namespace Shot

def laid (g : Orientation) (s : Shot) : Shot := ⟨s.picture.laid g, s.timing⟩

theorem laid_upright (s : Shot) : s.laid .upright = s := by
  rw [laid, Raster.laid_upright]

theorem laid_laid (g t : Orientation) (s : Shot) : (s.laid g).laid t = s.laid (g.andThen t) := by
  rw [laid, laid, laid, Raster.laid_laid]

/-- Laid alike, shots of one size are alike where they were before. -/
theorem apart_laid {s t : Shot} (one : s.picture.IsFixed) (two : t.picture.IsFixed)
    (width : t.picture.width = s.picture.width) (height : t.picture.height = s.picture.height)
    (g : Orientation) (apart : Apart s t) : Apart (s.laid g) (t.laid g) := by
  rw [Apart, alike, decide_eq_false_iff_not] at apart ⊢
  intro packed
  have same : t.picture.laid g = s.picture.laid g :=
    (two.laid g).eq_of_packed (one.laid g)
      (by rw [Raster.laid_width, Raster.laid_width, width, height])
      (by rw [Raster.laid_height, Raster.laid_height, width, height]) packed
  exact apart (congrArg Raster.packed (Raster.laid_injective g same))

end Shot

namespace Animation

/-- The same shots laid another way. -/
structure IsLaid (g : Orientation) (a b : Animation) : Prop where
  written : b.written = a.written.map (Shot.laid g)
  loop : b.loop = a.loop
  width : b.width = if g.swapped then a.height else a.width
  height : b.height = if g.swapped then a.width else a.height

theorem IsLaid.refl (a : Animation) : IsLaid .upright a a := by
  refine ⟨?_, rfl, rfl, rfl⟩
  rw [List.map_congr_left fun s _ => Shot.laid_upright s, List.map_id']

theorem IsLaid.trans {g t : Orientation} {a b d : Animation} (one : IsLaid g a b)
    (two : IsLaid t b d) : IsLaid (g.andThen t) a d := by
  refine ⟨?_, two.loop.trans one.loop, ?_, ?_⟩
  · rw [two.written, one.written, List.map_map]
    exact List.map_congr_left fun s _ => Shot.laid_laid g t s
  · rw [two.width, one.width, one.height]
    cases first : g.swapped <;> cases second : t.swapped <;>
      simp [Orientation.andThen, first, second]
  · rw [two.height, one.width, one.height]
    cases first : g.swapped <;> cases second : t.swapped <;>
      simp [Orientation.andThen, first, second]

theorem sized_written (a : Animation) :
    ∀ s ∈ a.written, s.picture.width = a.width ∧ s.picture.height = a.height := by
  intro s member
  obtain ⟨t, shown, same⟩ := Shot.mem_folded member
  rw [same]
  exact a.sized t shown

theorem written_ne_nil (a : Animation) : a.written ≠ [] := by
  obtain ⟨s, shots, some_⟩ := List.exists_cons_of_ne_nil a.nonempty
  rw [written, some_, Shot.folded]
  exact Shot.foldOnto_ne_nil s shots

/-- An animation as it has been written before. -/
structure Settled (a : Animation) : Prop where
  fixed : ∀ s ∈ a.written, s.picture.IsFixed
  /-- Durations are in whole hundredths of a second. -/
  hundredths : ∀ s ∈ a.written, 10 ∣ s.timing.duration
  recordable : Encoding.Recordable a

variable {g : Orientation} {a b : Animation}

/-- Whatever way it is laid, it stays settled. -/
theorem Settled.laid (settled : Settled a) (laid : IsLaid g a b) : Settled b := by
  obtain ⟨fixed, hundredths, width, height, loop, delays⟩ := settled
  refine ⟨?_, ?_, ?_, ?_, laid.loop ▸ loop, ?_⟩
  · rw [laid.written]
    exact List.forall_mem_map.mpr fun s member => (fixed s member).laid g
  · rw [laid.written]
    exact List.forall_mem_map.mpr fun s member => hundredths s member
  · rw [laid.width]
    split <;> assumption
  · rw [laid.height]
    split <;> assumption
  · rw [laid.written]
    exact List.forall_mem_map.mpr fun s member => delays s member

/-- Shots that are laid another way stay apart, so there is nothing to fold. -/
theorem folded_laid (settled : Settled a) (g : Orientation) :
    Shot.folded (a.written.map (Shot.laid g)) = a.written.map (Shot.laid g) := by
  apply Shot.folded_of_isChain
  rw [List.isChain_map]
  refine (Shot.isChain_folded a.shots).imp_of_mem_imp fun s t hs ht apart => ?_
  obtain ⟨sWidth, sHeight⟩ := a.sized_written s hs
  obtain ⟨tWidth, tHeight⟩ := a.sized_written t ht
  exact Shot.apart_laid (settled.fixed s hs) (settled.fixed t ht) (tWidth.trans sWidth.symm)
    (tHeight.trans sHeight.symm) g apart

end Animation

/-! ## Reading back -/

/-- A frame gives back a shot: its colours, all opaque, its hundredths of a second
and its disposal. -/
structure Frame.GivesBack (f : Frame) (s : Shot) : Prop where
  width : f.picture.width = s.picture.width
  height : f.picture.height = s.picture.height
  pixel : ∀ x y, x < s.picture.width → y < s.picture.height →
    f.picture.pixelAt x y = { s.picture.pixelAt x y with alpha := 255 }
  duration : f.timing.duration = 10 * Encoding.delay s.timing
  disposal : f.timing.disposal = s.timing.disposal

/-- A file gives back an animation that was written. -/
structure ReadsBack (c : Container) (a : Animation) : Prop where
  tag : c.tag = Format.gif.tag
  intact : c.damage = none
  loop : c.loop = a.loop
  frames : List.Forall₂ Frame.GivesBack c.frames a.written

namespace Animation

variable {step : Step} {o : Options} {turn : Symmetry} {g : Orientation}

theorem overlaid_shown {canvas : Raster} {f : Frame} {s : Shot} (fixed : s.picture.IsFixed)
    (width : canvas.width = s.picture.width) (height : canvas.height = s.picture.height)
    (back : f.GivesBack s) : (canvas.overlaid f.picture).Shows s.picture := by
  refine ⟨rfl, width, height, fun x y hx hy => ?_⟩
  have pixel : f.picture.pixelAt x y = s.picture.pixelAt x y := by
    rw [back.pixel x y hx hy, ← fixed.alpha x y]
  rw [Raster.pixelAt_overlaid (width ▸ hx) (height ▸ hy),
    if_pos ⟨back.width ▸ hx, back.height ▸ hy⟩, pixel]
  exact Rgba.above_of_solid (fixed.alpha x y) _

/-- Every canvas of a file that gives back shots shows its own one. -/
theorem canvases_shown {frames : List Frame} {shots : List Shot} {width height : Nat}
    (back : List.Forall₂ Frame.GivesBack frames shots) (canvas : Raster)
    (canvasWidth : canvas.width = width) (canvasHeight : canvas.height = height)
    (fixed : ∀ s ∈ shots, s.picture.IsFixed)
    (sized : ∀ s ∈ shots, s.picture.width = width ∧ s.picture.height = height) :
    List.Forall₂ (fun next s => s.picture.IsFixed ∧ next.Shows s.picture)
      (canvasesFrom canvas frames) shots := by
  induction back generalizing canvas with
  | nil => exact .nil
  | cons given _ ih =>
      obtain ⟨fixedHere, fixedLater⟩ := List.forall_mem_cons.mp fixed
      obtain ⟨⟨sizedWidth, sizedHeight⟩, sizedLater⟩ := List.forall_mem_cons.mp sized
      have shown := overlaid_shown fixedHere (canvasWidth.trans sizedWidth.symm)
        (canvasHeight.trans sizedHeight.symm) given
      exact .cons ⟨fixedHere, shown⟩ (ih _ canvasWidth canvasHeight fixedLater sizedLater)

/-- A canvas that is turned over is reduced to its picture turned over. -/
theorem reduced_shown {canvas r : Raster} (turns : step.turn? = some turn)
    (shown : canvas.Shows r) (fixed : r.IsFixed) :
    reduced step o canvas = .ok (r.laid (.ofSymmetry turn)) := by
  rw [reduced, Step.runScaled_outcome, Step.runsOn, Step.resamples_of_turn turns,
    if_neg (by simp), Outcome.ok_bind, if_pos rfl, Step.run_of_turn turns, Outcome.ok_bind,
    Raster.transformed_eq_laid]
  exact Raster.paletted_of_shown (shown.laid fixed _) (fixed.laid _)

/-- The pictures laid another way and the times read back are the shots laid
another way. -/
theorem zipWith_givesBack {frames : List Frame} {shots : List Shot}
    (back : List.Forall₂ Frame.GivesBack frames shots)
    (hundredths : ∀ s ∈ shots, 10 ∣ s.timing.duration) (g : Orientation) :
    (shots.map fun s => s.picture.laid g).zipWith Shot.mk (frames.map (·.timing)) =
      shots.map (Shot.laid g) := by
  induction back with
  | nil => rfl
  | @cons f s frames shots given _ ih =>
      obtain ⟨whole, later⟩ := List.forall_mem_cons.mp hundredths
      have timing : f.timing = s.timing := by
        have duration : f.timing.duration = s.timing.duration := by
          rw [given.duration, Encoding.delay, Int.mul_tdiv_cancel' whole]
        calc f.timing = ⟨f.timing.duration, f.timing.disposal⟩ := rfl
          _ = s.timing := by rw [duration, given.disposal]
      rw [List.map_cons, List.map_cons, List.zipWith_cons_cons, ih later, List.map_cons, timing]
      rfl

/-- A settled animation that was read back is turned over shot by shot. -/
theorem transformed_shown {c : Container} {a : Animation} {first : Frame} {rest : List Frame}
    (settled : Settled a) (back : ReadsBack c a) (frames : c.frames = first :: rest)
    (turns : step.turn? = some turn) :
    ∃ b, (transformed c first step o step.resamples).outcome = .ok b ∧
      IsLaid (.ofSymmetry turn) a b := by
  generalize laid : Orientation.ofSymmetry turn = g
  have given := back.frames
  obtain ⟨shot, shots, written⟩ : ∃ shot shots, a.written = shot :: shots := by
    rw [frames] at given
    obtain ⟨shot, shots, -, -, written⟩ := List.forall₂_cons_left_iff.mp given
    exact ⟨shot, shots, written⟩
  have firstGiven : first.GivesBack shot := by
    rw [frames, written] at given
    exact (List.forall₂_cons.mp given).1
  obtain ⟨shotWidth, shotHeight⟩ := a.sized_written shot (by rw [written]; exact List.mem_cons_self)
  have width : first.picture.width = a.width := firstGiven.width.trans shotWidth
  have height : first.picture.height = a.height := firstGiven.height.trans shotHeight
  -- Each canvas shows its shot, so it is reduced to the shot laid the new way.
  have shown := canvases_shown given (emptyCanvas a.width a.height) rfl rfl settled.fixed
    a.sized_written
  have reducedAll : (canvases first.picture.width first.picture.height c.frames).mapM
      (reduced step o) = .ok (a.written.map fun s => s.picture.laid g) := by
    rw [Outcome.mapM_eq_ok, List.forall₂_map_right_iff, canvases, width, height, ← laid]
    exact shown.imp fun canvas s both => reduced_shown turns both.2 both.1
  have sizedLaid : ∀ r ∈ a.written.map (fun s => s.picture.laid g),
      r.width = (if g.swapped then a.height else a.width) ∧
        r.height = if g.swapped then a.width else a.height := by
    refine List.forall_mem_map.mpr fun s member => ?_
    obtain ⟨sWidth, sHeight⟩ := a.sized_written s member
    rw [Raster.laid_width, Raster.laid_height, sWidth, sHeight]
    exact ⟨rfl, rfl⟩
  have shared : sharedSize (a.written.map fun s => s.picture.laid g) =
      (if g.swapped then a.height else a.width, if g.swapped then a.width else a.height) := by
    have firstSized := sizedLaid (shot.picture.laid g) (by rw [written]; exact List.mem_cons_self)
    rw [written, List.map_cons, sharedSize, firstSized.1, firstSized.2]
  have aligned : (a.written.map fun s => s.picture.laid g).length =
      (c.frames.map (·.timing)).length := by
    rw [List.length_map, List.length_map, given.length_eq]
  obtain ⟨b, joined, bShots, bWidth, bHeight, bLoop⟩ := ofPictures_of_sized c.loop
    (by rw [written]; exact List.cons_ne_nil _ _) aligned sizedLaid
  refine ⟨b, ?_, ?_, bLoop.trans back.loop, bWidth, bHeight⟩
  · rw [transformed_outcome, reducedAll, Outcome.ok_bind, back.intact, shared]
    exact joined
  · rw [Animation.written, bShots, zipWith_givesBack given settled.hundredths, folded_laid settled]

end Animation

namespace Engine

/-- A turn of a settled animation that was read back succeeds, and lays it as its motion
says. -/
theorem reply_turn {c : Container} {a : Animation} (settled : a.Settled) (back : ReadsBack c a)
    (given : Option Marks) (shelf : Shelf) (look : Lookup) (turn : Turn) :
    ∃ (g : Orientation) (b : Animation), g.motion = turn.motion ∧
      reply given shelf look (some c) (.text turn.operation.name) turn.options =
        .ok (.encoded (.animation b)) ∧ Animation.IsLaid g a b := by
  obtain ⟨step, symmetry, built, turns, motion⟩ := turn.named.built
  have found : answerFormat (some c) turn.options = .ok .gif := by
    rcases turn.asksGif with asked | asked <;>
      rw [answerFormat, asked, Outcome.ok_bind, outputFormat]
    rw [Opened.probe, Opened.container, Outcome.ok_bind, Container.format?_of_tag back.tag]
  obtain ⟨first, rest, frames⟩ : ∃ first rest, c.frames = first :: rest := by
    apply List.exists_cons_of_ne_nil
    intro none_
    have empty := back.frames
    rw [none_, List.forall₂_nil_left_iff] at empty
    exact a.written_ne_nil empty
  have decided : step.runsOn turn.options first.picture = .ok true := by
    rw [Step.runsOn, Step.resamples_of_turn turns]
    rfl
  have plain : animationStep step = step := by
    cases step <;> first | rfl | cases turns
  obtain ⟨b, joined, laid⟩ := Animation.transformed_shown (o := turn.options) settled back frames
    turns
  have prepared : (prepare (some c) (.text turn.operation.name) turn.options).outcome =
      .ok (.animation b) := by
    rw [prepare_of _ turn.valid found, built, Outcome.ok_bind, if_pos rfl,
      prepareAnimation_outcome frames, decided, plain, joined]
    rfl
  refine ⟨.ofSymmetry symmetry, b, motion, ?_, laid⟩
  have encoded := Encoding.ofAnimation_eq_ok.mpr ⟨rfl, (settled.laid laid).recordable⟩
  rw [reply_of_animation prepared, encoded]
  rfl

end Engine

end Darkroom
