/-
# Darkroom.Proofs.Frames -- from frames to an animation

Every canvas of a file has the size of its first frame (`canvasesFrom_size`), and
each goes its own way: the step under the policy, then the palette (`reduced`).
Since a step accepts pictures by their size, what holds of the first canvas goes
for all of them (`reduced_all`), and the pictures join to an animation
(`transformed_of_first`).
-/
import Darkroom.Animation.Transformed
import Darkroom.Proofs.FixedPictures
import Darkroom.Proofs.Running

namespace Darkroom

set_option autoImplicit false

namespace Animation

variable {step : Step} {o : Options} {c : Container} {first : Frame} {rest : List Frame}

/-! ## Canvases -/

theorem canvasesFrom_size (canvas : Raster) (frames : List Frame) :
    ∀ next ∈ canvasesFrom canvas frames,
      next.mode = .rgba ∧ next.width = canvas.width ∧ next.height = canvas.height := by
  induction frames generalizing canvas with
  | nil => simp [canvasesFrom]
  | cons f rest ih =>
      intro next member
      rcases List.mem_cons.mp member with rfl | later
      · exact ⟨rfl, rfl, rfl⟩
      · exact ih (canvas.overlaid f.picture) next later

theorem length_canvasesFrom (canvas : Raster) (frames : List Frame) :
    (canvasesFrom canvas frames).length = frames.length := by
  induction frames generalizing canvas with
  | nil => rfl
  | cons f rest ih => rw [canvasesFrom, List.length_cons, ih, List.length_cons]

/-- What becomes of one canvas: the step under the policy, then the palette. -/
def reduced (step : Step) (o : Options) (canvas : Raster) : Outcome Raster := do
  (← (step.runScaled o canvas).outcome).paletted 256

theorem transformedCanvases_outcome (step : Step) (o : Options) (canvases : List Raster) :
    (transformedCanvases step o step.resamples canvases).outcome =
      canvases.mapM (reduced step o) := by
  have one (canvas : Raster) : (transformedCanvas step o step.resamples canvas).outcome =
      reduced step o canvas := by
    rw [reduced, Step.runScaled_outcome, Step.runsOn]
    cases resampling : step.resamples
    · simp [transformedCanvas]
    · simp [transformedCanvas, Step.runScaled_outcome, Step.runsOn, resampling]
  induction canvases with
  | nil => rfl
  | cons canvas rest ih =>
      rw [transformedCanvases, Logged.outcome_bind, one, List.mapM_cons]
      simp only [Logged.outcome_bind, ih, Logged.outcome_pure, Outcome.pure_eq]

theorem reduced_of_mem {canvases pictures : List Raster} {p : Raster}
    (all : List.Forall₂ (fun canvas p => reduced step o canvas = .ok p) canvases pictures)
    (member : p ∈ pictures) : ∃ canvas, reduced step o canvas = .ok p := by
  induction all with
  | nil => cases member
  | cons here _ ih =>
      rcases List.mem_cons.mp member with rfl | later
      · exact ⟨_, here⟩
      · exact ih later

/-- A canvas of the size and mode of another is accepted where that one is. -/
theorem reduced_accepts {canvas other p : Raster} (rgba : canvas.mode = .rgba)
    (isRgba : other.mode = .rgba) (width : other.width = canvas.width)
    (height : other.height = canvas.height) (made : reduced step o canvas = .ok p) :
    ∃ q, reduced step o other = .ok q ∧ q.width = p.width ∧ q.height = p.height := by
  obtain ⟨drawn, ran, made⟩ := Outcome.bind_eq_ok.mp made
  rw [Step.runScaled_outcome] at ran
  obtain ⟨runs, decided, ran⟩ := Outcome.bind_eq_ok.mp ran
  obtain ⟨result, accepted, inRgba, sameWidth, sameHeight⟩ : ∃ result,
      (step.runScaled o other).outcome = .ok result ∧ result.mode = .rgba ∧
        result.width = drawn.width ∧ result.height = drawn.height := by
    rw [Step.runScaled_outcome, Step.runsOn_congr step o width height, decided, Outcome.ok_bind]
    cases runs
    · obtain rfl := Except.ok.inj ran
      exact ⟨other, rfl, isRgba, width, height⟩
    · obtain ⟨q, accepted, sizes⟩ := Step.run_accepts (isRgba.trans rgba.symm) width height ran
      exact ⟨q, accepted, (Step.run_mode accepted).trans isRgba, sizes⟩
  obtain ⟨q, reducedTo⟩ := Raster.paletted_of_rgba inRgba 256
  have size := Raster.paletted_size reducedTo
  have sizeMade := Raster.paletted_size made
  refine ⟨q, by rw [reduced, accepted, Outcome.ok_bind, reducedTo], ?_, ?_⟩
  · rw [size.1, sameWidth, sizeMade.1]
  · rw [size.2, sameHeight, sizeMade.2]

/-- Once the first canvas is accepted all are, with one size. -/
theorem reduced_all {f : Frame} (rest : List Frame) {width height : Nat} {p : Raster}
    (made : reduced step o ((emptyCanvas width height).overlaid f.picture) = .ok p) :
    ∃ later, (canvases width height (f :: rest)).mapM (reduced step o) = .ok (p :: later) ∧
      later.length = rest.length ∧ ∀ q ∈ later, q.width = p.width ∧ q.height = p.height := by
  have size := canvasesFrom_size ((emptyCanvas width height).overlaid f.picture) rest
  rw [canvases, canvasesFrom, ← length_canvasesFrom ((emptyCanvas width height).overlaid f.picture)]
  generalize canvasesFrom ((emptyCanvas width height).overlaid f.picture) rest = others at size ⊢
  suffices each : ∃ later, List.Forall₂ (fun canvas q => reduced step o canvas = .ok q)
      others later ∧ ∀ q ∈ later, q.width = p.width ∧ q.height = p.height by
    obtain ⟨later, all, sizes⟩ := each
    exact ⟨later, Outcome.mapM_eq_ok.mpr (.cons made all), all.length_eq.symm, sizes⟩
  induction others with
  | nil => exact ⟨[], .nil, by simp⟩
  | cons canvas others ih =>
      obtain ⟨later, all, sizes⟩ := ih fun next member => size next (List.mem_cons_of_mem _ member)
      obtain ⟨isRgba, sameWidth, sameHeight⟩ := size canvas (List.mem_cons_self ..)
      obtain ⟨q, accepted, sizeQ⟩ := reduced_accepts rfl isRgba sameWidth sameHeight made
      exact ⟨q :: later, .cons accepted all, List.forall_mem_cons.mpr ⟨sizeQ, sizes⟩⟩

/-! ## Joining -/

theorem misfit?_eq_none {width height : Nat} {shots : List Shot} (index : Nat)
    (sized : ∀ s ∈ shots, s.picture.width = width ∧ s.picture.height = height) :
    misfit? width height index shots = none := by
  induction shots generalizing index with
  | nil => rfl
  | cons s rest ih =>
      rw [misfit?, if_pos (sized s (List.mem_cons_self ..))]
      exact ih (index + 1) fun t member => sized t (List.mem_cons_of_mem _ member)

variable {pictures : List Raster} {timings : List Timing} {width height : Nat} {loop : Option Int}

theorem mem_zipWith {s : Shot} (member : s ∈ pictures.zipWith Shot.mk timings) :
    s.picture ∈ pictures ∧ s.timing ∈ timings := by
  rw [← List.map_uncurry_zip_eq_zipWith] at member
  obtain ⟨⟨r, t⟩, both, rfl⟩ := List.mem_map.mp member
  exact List.of_mem_zip both

/-- Pictures of one size join to an animation of that size. -/
theorem ofPictures_of_sized (loop : Option Int) (some_ : pictures ≠ [])
    (count : pictures.length = timings.length)
    (sized : ∀ r ∈ pictures, r.width = width ∧ r.height = height) :
    ∃ a, ofPictures pictures timings width height loop = .ok a ∧
      a.shots = pictures.zipWith Shot.mk timings ∧ a.width = width ∧ a.height = height ∧
        a.loop = loop := by
  have shotsSized : ∀ s ∈ pictures.zipWith Shot.mk timings,
      s.picture.width = width ∧ s.picture.height = height :=
    fun s member => sized s.picture (mem_zipWith member).1
  have nonempty : pictures.zipWith Shot.mk timings ≠ [] := by
    obtain ⟨r, pictures, rfl⟩ := List.exists_cons_of_ne_nil some_
    cases timings with
    | nil => cases count
    | cons t timings => simp
  refine ⟨⟨_, width, height, loop, nonempty, shotsSized⟩, ?_, rfl, rfl, rfl, rfl⟩
  rw [ofPictures, if_neg some_, if_neg (not_not.mpr count)]
  dsimp only
  split
  · rename_i index picture misfit
    rw [misfit?_eq_none 0 shotsSized] at misfit
    cases misfit
  · rw [dif_neg nonempty]

theorem ofPictures_eq_ok {a : Animation}
    (joined : ofPictures pictures timings width height loop = .ok a) :
    a.shots = pictures.zipWith Shot.mk timings ∧ a.width = width ∧ a.height = height ∧
      a.loop = loop := by
  unfold ofPictures at joined
  split_ifs at joined
  dsimp only at joined
  split at joined
  · cases joined
  · split_ifs at joined
    obtain rfl := Except.ok.inj joined
    exact ⟨rfl, rfl, rfl, rfl⟩

theorem transformed_outcome (c : Container) (first : Frame) (step : Step) (o : Options) :
    (transformed c first step o step.resamples).outcome = (do
      let pictures ←
        (canvases first.picture.width first.picture.height c.frames).mapM (reduced step o)
      match c.damage with
      | some d => .error d.fault
      | none =>
          ofPictures pictures (c.frames.map (·.timing)) (sharedSize pictures).1
            (sharedSize pictures).2 c.loop) := by
  simp only [transformed, Logged.outcome_bind, transformedCanvases_outcome]
  refine bind_congr fun pictures => ?_
  cases c.damage <;> simp

/-- An animation that came out of the frames, one picture for every canvas. -/
theorem transformed_eq_ok {a : Animation}
    (made : (transformed c first step o step.resamples).outcome = .ok a) :
    ∃ pictures, List.Forall₂ (fun canvas p => reduced step o canvas = .ok p)
        (canvases first.picture.width first.picture.height c.frames) pictures ∧
      a.shots = pictures.zipWith Shot.mk (c.frames.map (·.timing)) ∧
        a.width = (sharedSize pictures).1 ∧ a.height = (sharedSize pictures).2 ∧
          a.loop = c.loop := by
  rw [transformed_outcome] at made
  obtain ⟨pictures, all, made⟩ := Outcome.bind_eq_ok.mp made
  rw [Outcome.mapM_eq_ok] at all
  cases damage : c.damage with
  | some d =>
      rw [damage] at made
      cases made
  | none =>
      rw [damage] at made
      exact ⟨pictures, all, ofPictures_eq_ok made⟩

/-- All pictures of an animation that comes from a file are in the fixed palette. -/
theorem fixed_of_transformed {a : Animation}
    (made : (transformed c first step o step.resamples).outcome = .ok a) :
    ∀ s ∈ a.shots, s.picture.IsFixed := by
  obtain ⟨pictures, all, shots, -⟩ := transformed_eq_ok made
  intro s member
  rw [shots] at member
  obtain ⟨canvas, came⟩ := reduced_of_mem all (mem_zipWith member).1
  obtain ⟨drawn, -, paletted⟩ := Outcome.bind_eq_ok.mp came
  exact .of_paletted paletted

theorem transformed_of_fault {fault : Fault} (frames : c.frames = first :: rest)
    (failed : reduced step o
      ((emptyCanvas first.picture.width first.picture.height).overlaid first.picture) =
        .error fault) : (transformed c first step o step.resamples).outcome = .error fault := by
  rw [transformed_outcome, frames, canvases, canvasesFrom, List.mapM_cons, failed]
  rfl

/-- The frames come to an animation where the first canvas is accepted, and to
the fault of the damage where there is any. -/
theorem transformed_of_first {p : Raster} (frames : c.frames = first :: rest)
    (made : reduced step o
      ((emptyCanvas first.picture.width first.picture.height).overlaid first.picture) = .ok p) :
    match c.damage with
    | some d => (transformed c first step o step.resamples).outcome = .error d.fault
    | none => ∃ a, (transformed c first step o step.resamples).outcome = .ok a ∧
        a.width = p.width ∧ a.height = p.height ∧ a.loop = c.loop ∧
          ∃ later, a.shots = (p :: later).zipWith Shot.mk (c.frames.map (·.timing)) := by
  obtain ⟨later, all, count, sizes⟩ := reduced_all rest made
  rw [transformed_outcome, frames, all, Outcome.ok_bind]
  cases c.damage with
  | some d => rfl
  | none =>
      have aligned : (p :: later).length = ((first :: rest).map (·.timing)).length := by
        simp [count]
      obtain ⟨a, joined, shots, width, height, loop⟩ := ofPictures_of_sized c.loop
        (List.cons_ne_nil p later) aligned (List.forall_mem_cons.mpr ⟨⟨rfl, rfl⟩, sizes⟩)
      exact ⟨a, joined, width, height, loop, later, shots⟩

end Animation

end Darkroom
