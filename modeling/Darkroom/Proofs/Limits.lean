/-
# Darkroom.Proofs.Limits -- what fits the fields of a file

A file has fields of a fixed width for the sides of its pictures and for the times
of an animation.  A step keeps to a limit for the sides when the picture and the
sides asked for do (`Step.runScaled_sidesIn`).  Folding adds up the times of
pictures that are alike, so the time of the whole run is what keeps every one of
them within its field (`Shot.duration_folded`); with that an animation can be
recorded (`Follows.recordable`).

Writing fails for no other reason: an animation for a number that does not fit
(`ofAnimation_eq_error`), a stamped picture for want of room to find its colour, or for a
side that is too long (`stampedJpeg_eq_error`).
-/
import Darkroom.Proofs.Carrying
import Darkroom.Proofs.Choosing
import Darkroom.Proofs.Size
import Darkroom.Proofs.Stamping

namespace Darkroom

set_option autoImplicit false

/-! ## Sides -/

/-- A picture with some pixels and no side beyond a limit. -/
structure Raster.SidesIn (r : Raster) (limit : ℕ) : Prop where
  wide : 0 < r.width
  tall : 0 < r.height
  narrow : r.width ≤ limit
  low : r.height ≤ limit

namespace Raster.SidesIn

variable {r p : Raster} {limit most : ℕ}

theorem mono (sides : r.SidesIn limit) (le : limit ≤ most) : r.SidesIn most :=
  ⟨sides.wide, sides.tall, sides.narrow.trans le, sides.low.trans le⟩

theorem congr (sides : r.SidesIn limit) (width : p.width = r.width) (height : p.height = r.height) :
    p.SidesIn limit :=
  ⟨width ▸ sides.wide, height ▸ sides.tall, width ▸ sides.narrow, height ▸ sides.low⟩

/-- A turned picture has the same sides, perhaps the other way round. -/
theorem transformed (sides : r.SidesIn limit) (turn : Symmetry) :
    (r.transformed turn).SidesIn limit := by
  obtain ⟨wide, tall, narrow, low⟩ := sides
  cases turn <;> first | exact ⟨wide, tall, narrow, low⟩ | exact ⟨tall, wide, low, narrow⟩

end Raster.SidesIn

namespace Options

/-- The request asks for whole sides up to a limit, and a side that follows the
proportions of the picture keeps to it as well. -/
def AsksUpTo (o : Options) (limit : ℕ) (r : Raster) : Prop :=
  ∃ w h : ℕ, o.Asks w h ∧ w ≤ limit ∧ h ≤ limit ∧
    ∀ x y, askedSides w h r.width r.height = .ok (x, y) → x ≤ limit ∧ y ≤ limit

namespace AsksUpTo

variable {o : Options} {limit most : ℕ} {r s : Raster}

theorem mono (asks : o.AsksUpTo limit r) (le : limit ≤ most) : o.AsksUpTo most r := by
  obtain ⟨w, h, asked, short, flat, derived⟩ := asks
  refine ⟨w, h, asked, short.trans le, flat.trans le, fun x y sides => ?_⟩
  obtain ⟨inX, inY⟩ := derived x y sides
  exact ⟨by omega, by omega⟩

theorem congr (asks : o.AsksUpTo limit r) (width : s.width = r.width)
    (height : s.height = r.height) : o.AsksUpTo limit s := by
  rwa [AsksUpTo, width, height]

/-- Sides within the range of a picture can be drawn. -/
theorem feasible (asks : o.AsksUpTo limit r) (sides : r.SidesIn (2 ^ 31 - 1))
    (small : limit ≤ 2 ^ 31 - 1) : ∃ w h, Step.Feasible o w h r := by
  obtain ⟨w, h, asked, short, flat, derived⟩ := asks
  obtain ⟨wide, tall, narrow, low⟩ := sides
  refine ⟨w, h, asked, wide, tall, by omega, by omega, by omega, by omega, fun x y settled => ?_⟩
  obtain ⟨inX, inY⟩ := derived x y settled
  exact ⟨by omega, by omega⟩

end AsksUpTo

end Options

namespace Step

variable {step : Step} {o : Options} {r p : Raster} {limit x y : ℕ}

theorem drawn_sidesIn (sides : r.SidesIn limit) (small : limit ≤ 2 ^ 31 - 1) (across : 0 < x)
    (deep : 0 < y) (short : x ≤ limit) (flat : y ≤ limit)
    (made : step.drawn r (.int x) (.int y) = .ok p) : p.SidesIn limit := by
  cases filling : step.fills
  case true =>
    obtain ⟨width, height⟩ := drawn_size filling made
    exact ⟨by omega, by omega, by omega, by omega⟩
  case false =>
    cases step
    case resize | thumbnail => cases filling
    case rotate | flip =>
      obtain rfl := Except.ok.inj made
      exact sides
    case fit =>
      obtain ⟨wide, tall, narrow, low⟩ := sides
      obtain ⟨box, fitted, made⟩ := Outcome.bind_eq_ok.mp made
      rcases box with - | ⟨a, b⟩
      · obtain rfl := Except.ok.inj made
        exact ⟨wide, tall, narrow, low⟩
      · obtain ⟨m, n, rfl, rfl, m1, n1⟩ :=
          fitSides_le wide tall (by omega) (by omega) across deep fitted
        obtain ⟨rfl, rfl⟩ := Raster.resized_size made
        exact ⟨by omega, by omega, by omega, by omega⟩

theorem run_sidesIn (sides : r.SidesIn limit) (small : limit ≤ 2 ^ 31 - 1)
    (asks : step.resamples = true →
      step.sides? = some (o.width, o.height) ∧ o.AsksUpTo limit r)
    (made : step.run r = .ok p) : p.SidesIn limit := by
  rcases step.turn_or_sides with ⟨turn, turns⟩ | ⟨_, _, given⟩
  · rw [run_of_turn turns] at made
    obtain rfl := Except.ok.inj made
    exact sides.transformed turn
  · obtain ⟨given, w, h, asked, short, flat, derived⟩ := asks (resamples_of_sides given)
    by_cases nothing : w = 0 ∧ h = 0
    · obtain ⟨rfl, rfl⟩ := nothing
      obtain rfl := run_nothing given asked.width asked.height made
      exact sides
    · obtain ⟨x, y, settled, made⟩ := run_something given asked.width asked.height nothing made
      obtain ⟨x1, y1⟩ := Options.one_le_askedSides nothing settled
      obtain ⟨inX, inY⟩ := derived x y settled
      lift x to ℕ using by omega
      lift y to ℕ using by omega
      exact drawn_sidesIn sides small (by omega) (by omega) (by omega) (by omega) made

/-- Under the policy a step keeps to a limit that the picture and the sides asked
for keep to. -/
theorem runScaled_sidesIn (sides : r.SidesIn limit) (small : limit ≤ 2 ^ 31 - 1)
    (asks : step.resamples = true →
      step.sides? = some (o.width, o.height) ∧ o.AsksUpTo limit r)
    (made : (step.runScaled o r).outcome = .ok p) : p.SidesIn limit := by
  rw [runScaled_outcome] at made
  obtain ⟨runs, -, made⟩ := Outcome.bind_eq_ok.mp made
  split_ifs at made
  · exact run_sidesIn sides small asks made
  · obtain rfl := Except.ok.inj made
    exact sides

end Step

/-! ## Times -/

namespace Shot

theorem duration_foldOnto (kept : Shot) {rest : List Shot} (nonneg : 0 ≤ kept.timing.duration)
    (all : ∀ s ∈ rest, 0 ≤ s.timing.duration) :
    ∀ s ∈ foldOnto kept rest, 0 ≤ s.timing.duration := by
  induction rest generalizing kept with
  | nil => simpa [foldOnto] using nonneg
  | cons s rest ih =>
      obtain ⟨here, later⟩ := List.forall_mem_cons.mp all
      unfold foldOnto
      split
      · exact ih _ (Int.add_nonneg nonneg here) later
      · exact List.forall_mem_cons.mpr ⟨nonneg, ih s here later⟩

/-- No picture stays longer than the whole run takes. -/
theorem duration_folded {shots : List Shot} (all : ∀ s ∈ shots, 0 ≤ s.timing.duration) :
    ∀ s ∈ folded shots, 0 ≤ s.timing.duration ∧ s.timing.duration ≤ totalDuration shots := by
  have nonneg : ∀ s ∈ folded shots, 0 ≤ s.timing.duration := by
    cases shots with
    | nil => simp [folded]
    | cons s rest =>
        obtain ⟨here, later⟩ := List.forall_mem_cons.mp all
        exact duration_foldOnto s here later
  have each : ∀ n ∈ (folded shots).map (·.timing.duration), 0 ≤ n := by simpa using nonneg
  intro s member
  refine ⟨nonneg s member, ?_⟩
  rw [← totalDuration_folded, totalDuration_eq_sum]
  exact List.single_le_sum each _ (List.mem_map_of_mem member)

end Shot

namespace Encoding

theorem checkedField_of_le {n : ℤ} (nonneg : 0 ≤ n) (le : n ≤ largestField) :
    checkedField n = .ok () :=
  if_pos ⟨nonneg, le⟩

/-- A delay is counted in hundredths of a second. -/
theorem checkedField_delay {t : Timing} (nonneg : 0 ≤ t.duration) (le : t.duration < 655360) :
    checkedField (delay t) = .ok () := by
  have hundredths : delay t = t.duration / 10 := Int.tdiv_eq_ediv_of_nonneg nonneg
  refine checkedField_of_le ?_ ?_ <;> rw [hundredths]
  · omega
  · unfold largestField
    omega

theorem only_checkedField (n : ℤ) : Outcome.Only (· = .unrecordable) (checkedField n) :=
  .ite (.ok ()) (.error rfl)

theorem only_ofAnimation (a : Animation) : Outcome.Only (· = .unrecordable) (ofAnimation a) := by
  unfold ofAnimation
  refine .bind (only_checkedField _) fun _ => .bind (only_checkedField _) fun _ => ?_
  have delays := Outcome.Only.forEach (fun s : Shot => only_checkedField (delay s.timing)) a.written
  cases a.loop with
  | none => exact .bind delays fun _ => .ok _
  | some n => exact .bind (only_checkedField n) fun _ => .bind delays fun _ => .ok _

/-- A number that does not fit is the one thing that keeps an animation from being
written. -/
theorem ofAnimation_eq_error {a : Animation} {fault : Fault} :
    ofAnimation a = .error fault ↔ fault = .unrecordable ∧ ¬Recordable a := by
  cases made : ofAnimation a with
  | ok e =>
      have fits := (ofAnimation_eq_ok.mp made).2
      simp [fits]
  | error other =>
      obtain rfl := only_ofAnimation a other made
      have misfits : ¬Recordable a := fun fits => by
        simp [ofAnimation_eq_ok.mpr ⟨rfl, fits⟩] at made
      simp [misfits, eq_comm]

/-- A stamped picture is written unless there is no room to find its colour, or one of its
sides is too long. -/
theorem stampedJpeg_eq_error {r : Raster} {quality : Value} {fault : Fault} (marks : Marks)
    (plain : r.mode = .rgb ∨ r.mode = .rgba) (whole : checkedQuality quality = .ok ())
    (sides : r.SidesIn (2 ^ 31 - 1)) :
    (stampedJpeg r quality (some marks)).outcome = .error fault ↔
      fault = .outOfRoom ∧ (Watermark.choose r).outcome = .error .outOfRoom ∨
        fault = .refusedPicture ∧ (∃ choice, (Watermark.choose r).outcome = .ok choice) ∧
          ¬r.SidesIn longestJpegSide := by
  obtain ⟨wide, tall, narrow, low⟩ := sides
  have colours : r.isConvertible = true := Raster.isConvertible_of_plain plain
  obtain ⟨choice, chosen⟩ | ⟨full, -⟩ :=
    Watermark.choose_found colours wide tall (by omega) (by omega)
  case inr =>
    have failed : (stampedJpeg r quality (some marks)).outcome = .error .outOfRoom := by
      rw [stampedJpeg, Logged.outcome_bind, Watermark.compose, Logged.outcome_bind, full]
      rfl
    rw [failed]
    simp [full, eq_comm]
  obtain ⟨stamp, laid, -⟩ :=
    Watermark.stamped_found (marks.get choice.variant) Watermark.defaultOpacity colours
  have composed := Watermark.compose_eq_ok.mpr ⟨chosen, laid⟩
  obtain ⟨p, made, width, height⟩ := Watermark.toRgb_of_compose colours composed
  have fits : p.width ≤ longestJpegSide ∧ p.height ≤ longestJpegSide ↔
      r.SidesIn longestJpegSide := by
    rw [width, height]
    exact ⟨fun within => ⟨wide, tall, within.1, within.2⟩, fun sides => ⟨sides.narrow, sides.low⟩⟩
  simp only [stampedJpeg, Logged.outcome_bind, Logged.outcome_lift, Outcome.outcome_ite, composed,
    made, whole, Outcome.ok_bind]
  split_ifs with within
  · simp [fits.mp within, chosen]
  · simp [mt fits.mpr within, chosen, eq_comm]

end Encoding

/-- The times of a file fit the fields of an animation: none is negative, all
together are less than 655.36 seconds, and the loop count is a two-byte number. -/
structure Container.TimesFit (c : Container) : Prop where
  nonneg : ∀ f ∈ c.frames, 0 ≤ f.timing.duration
  short : (c.frames.map (·.timing.duration)).sum < 655360
  loop : ∀ n, c.loop = some n → 0 ≤ n ∧ n ≤ Encoding.largestField

/-- An animation that follows a file with such times can be recorded. -/
theorem Animation.Follows.recordable {a : Animation} {c : Container} {first : Frame} {step : Step}
    {o : Options} {p : Raster} (follows : a.Follows c first step o p)
    (sides : p.SidesIn Encoding.largestField) (times : c.TimesFit) : Encoding.Recordable a := by
  obtain ⟨-, timings, -, ⟨width, height⟩, -, loop⟩ := follows
  have durations : a.shots.map (·.timing.duration) = c.frames.map (·.timing.duration) := by
    have both := congrArg (List.map Timing.duration) timings
    rwa [List.map_map, List.map_map] at both
  have nonneg : ∀ s ∈ a.shots, 0 ≤ s.timing.duration := by
    intro s member
    have listed : s.timing.duration ∈ c.frames.map (·.timing.duration) :=
      durations ▸ List.mem_map_of_mem member
    obtain ⟨f, inside, same⟩ := List.mem_map.mp listed
    exact same ▸ times.nonneg f inside
  refine ⟨?_, ?_, fun n repeated => ?_, fun s member => ?_⟩
  · rw [width]
    exact Encoding.checkedField_of_le (by omega) (by exact_mod_cast sides.narrow)
  · rw [height]
    exact Encoding.checkedField_of_le (by omega) (by exact_mod_cast sides.low)
  · obtain ⟨least, most⟩ := times.loop n (loop ▸ repeated)
    exact Encoding.checkedField_of_le least most
  · obtain ⟨least, most⟩ := Shot.duration_folded nonneg s member
    rw [Shot.totalDuration_eq_sum, durations] at most
    exact Encoding.checkedField_delay least (most.trans_lt times.short)

end Darkroom
