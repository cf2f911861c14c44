/-
# Darkroom.Proofs.Carrying -- what an animation keeps of its file

The frames of a file come to an animation where the step comes to a picture on the
canvas of the first frame, whatever the sizes of the frames; nothing else can go
wrong but damage in the file, or a want of room (`transformed_follows`).  The animation has a shot for
every frame, in order and with its timing, and all shots share one size: `Follows`.

What the writer is called with is `Animation.call`.  Folding puts one picture for
each run of frames with the same bytes, so the call has no more pictures than the
file has frames, and takes the same time: `Call.Carries`.
-/
import Darkroom.Proofs.Frames
import Darkroom.Proofs.Request
import Darkroom.Proofs.Written

namespace Darkroom

set_option autoImplicit false

namespace Shot

theorem totalDuration_eq_sum (shots : List Shot) :
    totalDuration shots = (shots.map (·.timing.duration)).sum := by
  induction shots with
  | nil => rfl
  | cons s rest ih =>
      rw [List.map_cons, List.sum_cons, ← ih]
      rfl

end Shot

namespace Animation

variable {a : Animation} {step : Step} {o : Options} {c : Container} {first : Frame}
  {rest : List Frame} {p : Raster}

/-! ## The shots -/

/-- The canvas of the first frame. -/
def firstCanvas (first : Frame) : Raster :=
  (emptyCanvas first.picture.width first.picture.height).overlaid first.picture

/-- An animation follows the frames of a file: a shot for every frame, with its
timing and with what the step makes of its canvas, and all of one size. -/
structure Follows (a : Animation) (c : Container) (first : Frame) (step : Step) (o : Options)
    (p : Raster) : Prop where
  count : a.shots.length = c.frames.length
  timings : a.shots.map (·.timing) = c.frames.map (·.timing)
  pictures : List.Forall₂ (fun canvas s => reduced step o canvas = .ok s.picture)
    (canvases first.picture.width first.picture.height c.frames) a.shots
  size : a.width = p.width ∧ a.height = p.height
  sizes : ∀ s ∈ a.shots, s.picture.width = p.width ∧ s.picture.height = p.height
  loop : a.loop = c.loop

/-- The step decides on the first canvas, and the palette takes what it comes to. -/
theorem reduced_of_drawn (drawn : (step.runScaled o (firstCanvas first)).outcome = .ok p) :
    ∃ q, reduced step o (firstCanvas first) = .ok q ∧ q.width = p.width ∧ q.height = p.height := by
  have rgba : p.mode = .rgba := Step.runScaled_mode drawn
  obtain ⟨q, made⟩ := Raster.paletted_of_rgba rgba 256
  refine ⟨q, ?_, Raster.paletted_size made⟩
  rw [reduced, drawn, Outcome.ok_bind, made]

theorem reduced_of_fault {fault : Fault}
    (failed : (step.runScaled o (firstCanvas first)).outcome = .error fault) :
    reduced step o (firstCanvas first) = .error fault := by
  rw [reduced, failed]
  rfl

/-- Where the step comes to a picture on the first canvas, and the file is whole,
there is an animation that follows its frames. -/
theorem transformed_follows (frames : c.frames = first :: rest) (whole : c.damage = none)
    (drawn : (step.runScaled o (firstCanvas first)).outcome = .ok p) :
    ∃ a, (transformed c first step o step.resamples).outcome = .ok a ∧
      a.Follows c first step o p := by
  obtain ⟨q, made, width, height⟩ := reduced_of_drawn drawn
  have joined := transformed_of_first frames made
  rw [whole] at joined
  obtain ⟨a, joined, wide, tall, loop, -⟩ := joined
  obtain ⟨pictures, all, shots, -⟩ := transformed_eq_ok joined
  have count : pictures.length = (c.frames.map (·.timing)).length := by
    rw [← all.length_eq, canvases, length_canvasesFrom, List.length_map]
  obtain ⟨shown, timed⟩ := Shot.map_zipWith count
  rw [← shots] at shown timed
  have size : a.width = p.width ∧ a.height = p.height := ⟨wide.trans width, tall.trans height⟩
  refine ⟨a, joined, ?_, timed, ?_, size, fun s member => ?_, loop⟩
  · simpa using congrArg List.length timed
  · rwa [← shown, List.forall₂_map_right_iff] at all
  · obtain ⟨same, sameTall⟩ := a.sized s member
    exact ⟨same.trans size.1, sameTall.trans size.2⟩

/-! ## The call -/

theorem PerPicture.values_ofList (ns : List Int) : (PerPicture.ofList ns).values = ns := by
  unfold ofList
  split <;> rfl

/-- A call hands on what a file has: some pictures of one size, at most one for
each frame, with a duration and a disposal for each of them, the time of the whole
file, and its loop count if it has one. -/
structure Call.Carries (call : Call) (c : Container) (p : Raster) : Prop where
  some_ : 1 ≤ call.pictures.length
  few : call.pictures.length ≤ c.frames.length
  sizes : ∀ r ∈ call.pictures, r.width = p.width ∧ r.height = p.height
  durations : call.durations.values.length = call.pictures.length
  disposals : call.disposals.values.length = call.pictures.length
  plain : call.pictures.length = 1 ↔
    (∃ n, call.durations = .plain n) ∧ ∃ n, call.disposals = .plain n
  time : call.durations.values.sum = (c.frames.map (·.timing.duration)).sum
  loop : call.loop = c.loop

theorem PerPicture.ofList_eq_plain_iff (ns : List Int) :
    (∃ n, PerPicture.ofList ns = .plain n) ↔ ns.length = 1 := by
  rw [List.length_eq_one_iff]
  constructor
  · rintro ⟨n, said⟩
    unfold ofList at said
    split at said
    · exact ⟨_, rfl⟩
    · cases said
  · rintro ⟨n, rfl⟩
    exact ⟨n, rfl⟩

/-- The call for an animation that follows a file carries it. -/
theorem call_carries (follows : a.Follows c first step o p) : a.call.Carries c p := by
  obtain ⟨count, timings, -, size, -, loop⟩ := follows
  have nonempty : a.written ≠ [] := Shot.folded_ne_nil a.nonempty
  have pictures : a.call.pictures.length = a.written.length := List.length_map _
  have durations : a.call.durations.values = a.written.map (·.timing.duration) :=
    PerPicture.values_ofList _
  have disposals : a.call.disposals.values = a.written.map (·.timing.disposal) :=
    PerPicture.values_ofList _
  refine ⟨?_, ?_, fun r member => ?_, ?_, ?_, ?_, ?_, loop⟩
  · rw [pictures]
    exact List.length_pos_iff.mpr nonempty
  · rw [pictures, ← count]
    exact Shot.length_folded_le a.shots
  · obtain ⟨same, sameTall⟩ := Encoding.pictures_size a r member
    exact ⟨same.trans size.1, sameTall.trans size.2⟩
  · rw [durations, pictures, List.length_map]
  · rw [disposals, pictures, List.length_map]
  · rw [pictures, call, PerPicture.ofList_eq_plain_iff, PerPicture.ofList_eq_plain_iff,
      List.length_map, List.length_map, and_self]
  · calc a.call.durations.values.sum = Shot.totalDuration a.written := by
          rw [durations, Shot.totalDuration_eq_sum]
      _ = Shot.totalDuration a.shots := Shot.totalDuration_folded a.shots
      _ = ((a.shots.map (·.timing)).map (·.duration)).sum := by
          rw [Shot.totalDuration_eq_sum, List.map_map]
          rfl
      _ = (c.frames.map (·.timing.duration)).sum := by
          rw [timings, List.map_map]
          rfl

end Animation

namespace Engine

open Animation

variable {given : Option Marks} {shelf : Shelf} {look : Lookup} {o : Options} {step : Step}
  {c : Container} {first : Frame} {rest : List Frame} {operation : Value}

theorem runsOn_animationStep (step : Step) (r : Raster) :
    (animationStep step).runsOn o r = step.runsOn o r := by
  rw [Step.runsOn, Step.runsOn, resamples_animationStep]

/-- A file that is not passed through comes to what becomes of its frames. -/
theorem prepare_transformed (valid : o.validate = .ok ())
    (found : answerFormat (some c) o = .ok .gif) (built : Step.build operation o = .ok step)
    (frames : c.frames = first :: rest)
    (touched : reply given shelf look (some c) operation o ≠ .ok .unchanged) :
    (prepare (some c) operation o).outcome =
      (transformed c first (animationStep step) o (animationStep step).resamples).outcome.map
        .animation := by
  have prepared : (prepare (some c) operation o).outcome =
      (prepareAnimation (some c) step o).outcome := by
    rw [prepare_of operation valid found, built, Outcome.ok_bind, if_pos rfl]
  rw [Ne, reply_unchanged_iff, prepared] at touched
  rw [prepared]
  cases decided : step.runsOn o first.picture with
  | ok runs => rw [prepareAnimation_transformed frames decided touched, resamples_animationStep]
  | error fault =>
      -- The policy fails on the first canvas just as it does on the first frame.
      have failed : ((animationStep step).runScaled o (firstCanvas first)).outcome =
          .error fault := by
        rw [Step.runScaled_outcome, runsOn_animationStep,
          Step.runsOn_congr step o (r := first.picture) (s := firstCanvas first) rfl rfl, decided]
        rfl
      rw [prepareAnimation_outcome frames, decided,
        transformed_of_fault frames (reduced_of_fault failed)]
      rfl

/-- Frames are carried through whole.  What the step comes to on the first canvas
settles the request: its fault, or the fault of the damage if there is any, or an
animation that follows the file and a call that carries it.  A turn comes to a
picture on any canvas, and so does a resample that can be drawn and has room. -/
theorem frames_carried {known : Operation} (valid : o.validate = .ok ())
    (found : answerFormat (some c) o = .ok .gif)
    (built : Step.build (.text known.name) o = .ok step) (frames : c.frames = first :: rest)
    (touched : reply given shelf look (some c) (.text known.name) o ≠ .ok .unchanged) :
    let drawn := ((animationStep step).runScaled o (firstCanvas first)).outcome
    let prepared := (prepare (some c) (.text known.name) o).outcome
    ((known.isResample = true → ∃ w h, Step.Feasible o w h (firstCanvas first)) →
      Outcome.RoomAllows (known.isResample = true → ∃ w h, o.Asks w h ∧
        Step.Roomy w h (firstCanvas first)) drawn) ∧
    (∀ fault, drawn = .error fault → prepared = .error fault) ∧
    ∀ p, drawn = .ok p →
      (∀ d, c.damage = some d → prepared = .error d.fault) ∧
      (c.damage = none → ∃ a, prepared = .ok (.animation a) ∧
        a.Follows c first (animationStep step) o p ∧ a.call.Carries c p ∧
        reply given shelf look (some c) (.text known.name) o =
          (Encoding.ofAnimation a).map .encoded) := by
  intro drawn prepared
  have made : prepared = _ := prepare_transformed valid found built frames touched
  refine ⟨fun feasible => ?_, fun fault failed => ?_, fun p came =>
    ⟨fun d damaged => ?_, fun whole => ?_⟩⟩
  · have same : (animationStep step).resamples = known.isResample := by
      rw [resamples_animationStep, Step.resamples_of_build built]
    rw [← same]
    refine Step.runScaled_found fun resampling => ?_
    rw [same] at resampling
    exact ⟨(sides_animationStep (Step.sides_of_build resampling built).1).1, feasible resampling⟩
  · rw [made, transformed_of_fault frames (reduced_of_fault failed)]
    rfl
  · obtain ⟨q, accepted, -⟩ := reduced_of_drawn came
    have failed := transformed_of_first frames accepted
    rw [damaged] at failed
    rw [made, failed]
    rfl
  · obtain ⟨a, joined, follows⟩ := transformed_follows frames whole came
    have prepared : prepared = .ok (.animation a) := by
      rw [made, joined]
      rfl
    exact ⟨a, prepared, follows, call_carries follows, reply_of_animation prepared⟩

/-- A file of two pages of different sizes. -/
def pages : Container where
  tag := Format.tiff.tag
  frames :=
    [⟨.filled .rgb 4 2 fun _ => 0, ⟨100, 1⟩⟩, ⟨.filled .rgb 1 3 fun _ => 255, ⟨50, 2⟩⟩]
  loop := some 3

/-- Both pages are turned, and keep their timings, their time and their loop count. -/
theorem pages_turned : ∃ a,
    (prepare (some pages) (.text Operation.rotate.name)
      { degree := .number (.int 90), format := .format .gif }).outcome = .ok (.animation a) ∧
    a.shots.map (·.timing) = [⟨100, 1⟩, ⟨50, 2⟩] ∧ a.call.pictures.length ≤ 2 ∧
      a.call.durations.values.sum = 150 ∧ a.call.loop = some 3 := by
  let o : Options := { degree := .number (.int 90), format := .format .gif }
  have built : Step.build (.text Operation.rotate.name) o =
      .ok (.rotate (.number (.int 90)) .quarterTurn) := rfl
  have touched : reply none {} (Disk.read {}) (some pages) (.text Operation.rotate.name) o ≠
      .ok .unchanged := by
    intro passed
    obtain ⟨step, r, built', declined⟩ := declined_of_unchanged (reply_unchanged_iff.mp passed)
    obtain rfl := Except.ok.inj (built.symm.trans built')
    cases declined
  obtain ⟨comes, -, follow⟩ := frames_carried (c := pages) rfl rfl built rfl touched
  obtain ⟨p, drawn⟩ := (comes fun resample => nomatch resample).found fun resample => nomatch resample
  obtain ⟨a, prepared, follows, carries, -⟩ := (follow p drawn).2 rfl
  exact ⟨a, prepared, follows.timings, carries.few, carries.time, carries.loop⟩

end Engine

end Darkroom
