/-
# Darkroom.Proofs.Boxing -- when fitting fits

Fitting keeps a picture in the box it is given (`Step.run_within`), but whether it
runs at all is decided by the policy, which looks at both sides of the box.  A
declined picture keeps its size, so the answer is in the box exactly where
enlarging is allowed or the sides of the box agree: both are shorter than those of
the source, or neither is (`Boxed.inside_iff`).  A box that is shorter on one side
only leaves the source as large as it is, and that is outside the box.

The law of one picture, `Boxed`, goes through both paths of a request to every
picture of the answer (`fit_boxed`).  In a format that loses nothing there is an
answer for sides of any ordinary size, if there is room to make it (`fit_found`).
-/
import Darkroom.Proofs.Size
import Darkroom.Proofs.Stamping

namespace Darkroom

set_option autoImplicit false

/-! ## The law -/

/-- A picture that is fitted: as large as its source where the policy declines, and
in the box everywhere else. -/
structure Boxed (o : Options) (w h : ℕ) (source p : Raster) : Prop where
  kept : Declined o w h source → p.width = source.width ∧ p.height = source.height
  inside : ¬Declined o w h source → p.width ≤ w ∧ p.height ≤ h

/-- The sides of a box agree with a picture: both are shorter, or neither is. -/
def Agrees (w h : ℕ) (r : Raster) : Prop :=
  w < r.width ↔ h < r.height

section Law

variable {o : Options} {w h : ℕ} {source p q : Raster}

theorem Boxed.congr (boxed : Boxed o w h source p) (width : q.width = p.width)
    (height : q.height = p.height) : Boxed o w h source q := by
  obtain ⟨kept, inside⟩ := boxed
  rw [← width, ← height] at kept inside
  exact ⟨kept, inside⟩

/-- What is filled is as large as the box. -/
theorem Sized.toBoxed (sized : Sized true o w h source p) (across : 0 < w) (down : 0 < h) :
    Boxed o w h source p := by
  refine ⟨fun declined => sized.kept (.inl declined), fun allowed => ?_⟩
  have given := Options.given_of_askedSides (sized.asked allowed (by omega) rfl)
  have width := given.1 across.ne'
  have height := given.2 down.ne'
  exact ⟨by omega, by omega⟩

/-- Declining is what a box that disagrees comes to. -/
theorem declined_of_disagrees (off : o.upscale.truthy = false) (disagrees : ¬Agrees w h source) :
    Declined o w h source := by
  refine ⟨off, ?_⟩
  by_contra shorter
  exact disagrees ⟨fun _ => by omega, fun _ => by omega⟩

/-- A fitted picture is in its box exactly where enlarging is allowed or the sides
of the box agree with the source. -/
theorem Boxed.inside_iff (boxed : Boxed o w h source p) :
    p.width ≤ w ∧ p.height ≤ h ↔ o.upscale.truthy = true ∨ Agrees w h source := by
  by_cases declined : Declined o w h source
  · obtain ⟨off, reached⟩ := declined
    obtain ⟨width, height⟩ := boxed.kept ⟨off, reached⟩
    rw [width, height, off, Agrees]
    constructor
    · intro within
      exact .inr ⟨fun _ => by omega, fun _ => by omega⟩
    · rintro (on | agrees)
      · cases on
      · omega
  · refine iff_of_true (boxed.inside declined) ?_
    by_contra neither
    obtain ⟨off, disagrees⟩ := not_or.mp neither
    exact declined (declined_of_disagrees (Bool.eq_false_of_not_eq_true off) disagrees)

end Law

/-! ## The answer -/

/-- The pictures that an answer shows: those that are written, or the source. -/
def Answer.shown (source : Raster) : Answer → List Raster
  | .unchanged => [source]
  | .encoded e => e.pictures

namespace Step

variable {step : Step} {o : Options} {w h : ℕ} {r p : Raster}

/-- Fitting under the policy keeps to the law. -/
theorem runScaled_boxed (boxing : step.fills = false)
    (given : step.sides? = some (o.width, o.height)) (asks : o.Asks w h)
    (narrow : r.width < 2 ^ 31) (low : r.height < 2 ^ 31) (across : 0 < w) (down : 0 < h)
    (made : (step.runScaled o r).outcome = .ok p) : Boxed o w h r p := by
  have sized := runScaled_sized given asks narrow low made
  refine ⟨fun declined => sized.kept (.inl declined), fun allowed => ?_⟩
  rw [runScaled_outcome] at made
  obtain ⟨runs, decided, made⟩ := Outcome.bind_eq_ok.mp made
  have resampling := resamples_of_sides given
  obtain ⟨wide, tall⟩ := sides_pos_of_runsOn resampling decided
  rw [if_pos ((runs_iff_not_declined resampling asks narrow low decided).mpr allowed)] at made
  obtain ⟨-, x, y, asked, inX, inY⟩ := run_within boxing given asks.width asks.height wide tall
    narrow low (by omega) made
  have box := Options.given_of_askedSides asked
  have width := box.1 across.ne'
  have height := box.2 down.ne'
  exact ⟨by omega, by omega⟩

end Step

namespace Engine

variable {given : Option Marks} {shelf : Shelf} {look : Lookup} {operation : Value} {c : Container}
  {r : Raster} {f sf : Format} {o : Options} {step : Step} {w h : ℕ}

/-- Still or animation, a file is passed through only where its resample is declined. -/
theorem declined_of_passed (decoded : (Opened.still (some c)).outcome = .ok (r, sf))
    (narrow : r.width < 2 ^ 31) (low : r.height < 2 ^ 31) (asks : o.Asks w h)
    (resampling : step.resamples = true) (built : Step.build operation o = .ok step)
    (prepared : (prepare (some c) operation o).outcome = .ok .unchanged) : Declined o w h r := by
  obtain ⟨step', f, -, built', prepared⟩ := built_of_prepare prepared
  obtain rfl := Except.ok.inj (built.symm.trans built')
  have off : step.runsOn o r = .ok false := by
    split_ifs at prepared
    · obtain ⟨_, first, rest, same, frames, -, made⟩ := Opened.still_eq_ok decoded
      obtain rfl := Option.some.inj same
      obtain ⟨width, height⟩ := Raster.normalized_size made
      rw [Step.runsOn_congr step o width height]
      exact ((prepareAnimation_unchanged_iff frames).mp prepared).1
    · exact ((prepareStill_unchanged_iff decoded).mp prepared).1
  by_contra allowed
  cases (Step.runs_iff_not_declined resampling asks narrow low off).mpr allowed

/-- A still picture that is fitted keeps to the law, and so does its file. -/
theorem still_boxed {p : Prepared} {marks : Option Marks} {e : Encoding}
    (decoded : (Opened.still (some c)).outcome = .ok (r, sf)) (boxing : step.fills = false)
    (sides : step.sides? = some (o.width, o.height)) (asks : o.Asks w h)
    (narrow : r.width < 2 ^ 31) (low : r.height < 2 ^ 31) (across : 0 < w) (down : 0 < h)
    (prepared : (prepareStill (some c) step o f).outcome = .ok p)
    (finished : (p.finish marks).outcome = .ok (.encoded e)) :
    ∃ q, e.pictures = [q] ∧ Boxed o w h r q := by
  rcases finish_eq_encoded finished with ⟨picture, format, quality, rfl, encoded⟩ | ⟨a, rfl, -⟩
  · obtain ⟨q, rfl, width, height⟩ := Encoding.ofPicture_eq_ok encoded
    rw [prepareStill_runScaled decoded (by rw [prepared]; simp)] at prepared
    obtain ⟨drawn, ran, same⟩ := Outcome.map_eq_ok.mp prepared
    cases same
    have boxed := Step.runScaled_boxed boxing sides asks narrow low across down ran
    exact ⟨q, Encoding.pictures_single, boxed.congr width height⟩
  · rcases prepareStill_cases decoded prepared with impossible | ⟨picture, impossible⟩ <;>
      cases impossible

/-- The pictures of an animation, fitted by filling, keep to the law. -/
theorem animation_boxed {p : Prepared} {marks : Option Marks} {e : Encoding}
    (decoded : (Opened.still (some c)).outcome = .ok (r, sf))
    (sides : step.sides? = some (o.width, o.height)) (asks : o.Asks w h)
    (narrow : r.width < 2 ^ 31) (low : r.height < 2 ^ 31) (across : 0 < w) (down : 0 < h)
    (prepared : (prepareAnimation (some c) step o).outcome = .ok p)
    (finished : (p.finish marks).outcome = .ok (.encoded e)) :
    e.pictures ≠ [] ∧ ∀ q ∈ e.pictures, Boxed o w h r q := by
  obtain ⟨_, first, rest, same, frames, -, -⟩ := Opened.still_eq_ok decoded
  obtain rfl := Option.some.inj same
  rcases finish_eq_encoded finished with ⟨picture, format, quality, rfl, -⟩ | ⟨a, rfl, encoded⟩
  · rcases prepareAnimation_cases frames prepared with impossible | ⟨a, impossible⟩ <;>
      cases impossible
  · obtain ⟨rfl, -⟩ := Encoding.ofAnimation_eq_ok.mp encoded
    have sized := animation_sized decoded sides asks narrow low prepared
    refine ⟨?_, fun q member => (sized q member).toBoxed across down⟩
    simpa [Encoding.pictures, Animation.written] using Shot.folded_ne_nil a.nonempty

/-- Every answer to fitting shows pictures, and all of them keep to the law. -/
theorem fit_boxed {a : Answer} (decoded : (Opened.still (some c)).outcome = .ok (r, sf))
    (narrow : r.width < 2 ^ 31) (low : r.height < 2 ^ 31) (asks : o.Asks w h) (across : 0 < w)
    (down : 0 < h)
    (answered : reply given shelf look (some c) (.text Operation.fit.name) o = .ok a) :
    a.shown r ≠ [] ∧ ∀ p ∈ a.shown r, Boxed o w h r p := by
  obtain ⟨prepared, marks, made, finished⟩ := prepared_of_reply answered
  obtain ⟨step, f, -, built, path⟩ := built_of_prepare made
  obtain ⟨sides, boxing⟩ := Step.sides_of_build rfl built
  cases a with
  | unchanged =>
      obtain rfl := finish_eq_unchanged finished
      have declined :=
        declined_of_passed decoded narrow low asks (Step.resamples_of_sides sides) built made
      rw [Answer.shown, List.forall_mem_singleton]
      exact ⟨List.cons_ne_nil _ _, fun _ => ⟨rfl, rfl⟩, fun allowed => absurd declined allowed⟩
  | encoded e =>
      rw [Answer.shown]
      split_ifs at path
      · exact animation_boxed decoded sides asks narrow low across down path finished
      · obtain ⟨q, one, boxed⟩ :=
          still_boxed decoded boxing sides asks narrow low across down path finished
        rw [one, List.forall_mem_singleton]
        exact ⟨List.cons_ne_nil _ _, boxed⟩

/-- A file in a format that loses nothing is answered, unless there is no room for it. -/
theorem fit_found (given : Option Marks) (shelf : Shelf) (look : Lookup)
    (decoded : (Opened.still (some c)).outcome = .ok (r, sf)) (wide : 0 < r.width)
    (tall : 0 < r.height) (narrow : r.width < 2 ^ 31) (low : r.height < 2 ^ 31) (asks : o.Asks w h)
    (across : 0 < w) (down : 0 < h) (short : w < 2 ^ 31) (flat : h < 2 ^ 31)
    (valid : o.validate = .ok ()) (found : answerFormat (some c) o = .ok f)
    (keeps : f ∈ Encoding.lossless) :
    Outcome.RoomAllows (r.IsShort ∧ w ≤ Span.roomyLength ∧ h ≤ Span.roomyLength)
      (reply given shelf look (some c) (.text Operation.fit.name) o) := by
  let step : Step := .fit o.width o.height
  have built : Step.build (.text Operation.fit.name) o = .ok step := Step.build_name .fit o
  by_cases passed : reply given shelf look (some c) (.text Operation.fit.name) o = .ok .unchanged
  · exact .inl ⟨.unchanged, passed⟩
  have box {x y : ℤ} (asked : Options.askedSides w h r.width r.height = .ok (x, y)) :
      x = w ∧ y = h :=
    (Options.given_of_askedSides asked).imp (· across.ne') (· down.ne')
  have feasible : Step.Feasible o w h r := by
    refine ⟨asks, wide, tall, narrow, low, short, flat, fun x y asked => ?_⟩
    obtain ⟨width, height⟩ := box asked
    exact ⟨by omega, by omega⟩
  have drawn : Outcome.RoomAllows (r.IsShort ∧ w ≤ Span.roomyLength ∧ h ≤ Span.roomyLength)
      (picture (some c) step o) := by
    rw [picture, decoded]
    refine (Step.runScaled_found fun _ => ⟨rfl, w, h, feasible⟩).mono ?_
    rintro ⟨source, short, flat⟩ -
    refine ⟨w, h, asks, fun x y asked => ?_⟩
    obtain ⟨rfl, rfl⟩ := box asked
    exact ⟨source, by exact_mod_cast short, by exact_mod_cast flat⟩
  have same : o.writtenAs o.format o.quality = o := rfl
  rw [← same] at valid found passed
  have made := reply_lossless valid found built keeps passed
  rw [← same, made]
  exact drawn.map _

/-- The answer to fitting is in the box exactly where enlarging is allowed or the
sides of the box agree with the source.  Where they do not, the source is shown as
large as it is.  There is an answer in every format that loses nothing, unless there is
no room to make it, and there is room where no side is longer than `2 ^ 24`. -/
theorem fit_inside_iff (given : Option Marks) (shelf : Shelf) (look : Lookup)
    (decoded : (Opened.still (some c)).outcome = .ok (r, sf)) (wide : 0 < r.width)
    (tall : 0 < r.height) (narrow : r.width < 2 ^ 31) (low : r.height < 2 ^ 31) (asks : o.Asks w h)
    (across : 0 < w) (down : 0 < h) :
    (∀ a, reply given shelf look (some c) (.text Operation.fit.name) o = .ok a →
      a.shown r ≠ [] ∧ ∀ p ∈ a.shown r,
        (p.width ≤ w ∧ p.height ≤ h ↔ o.upscale.truthy = true ∨ Agrees w h r) ∧
        (o.upscale.truthy = false → ¬Agrees w h r → p.width = r.width ∧ p.height = r.height)) ∧
    (w < 2 ^ 31 → h < 2 ^ 31 → o.validate = .ok () → ∀ f ∈ Encoding.lossless,
      answerFormat (some c) o = .ok f →
        Outcome.RoomAllows (r.IsShort ∧ w ≤ Span.roomyLength ∧ h ≤ Span.roomyLength)
          (reply given shelf look (some c) (.text Operation.fit.name) o)) := by
  constructor
  · intro a answered
    obtain ⟨some_, boxed⟩ := fit_boxed decoded narrow low asks across down answered
    refine ⟨some_, fun p member => ⟨(boxed p member).inside_iff, fun off disagrees => ?_⟩⟩
    exact (boxed p member).kept (declined_of_disagrees off disagrees)
  · intro short flat valid f keeps found
    exact fit_found given shelf look decoded wide tall narrow low asks across down short flat valid
      found keeps

/-- Two pixels each way are asked for.  That is half the width but the whole height,
so the picture stays twice as wide as its box. -/
theorem blackFile_stays_wide : ∃ a p,
    reply none {} (Disk.read {}) (some (blackFile .png)) (.text Operation.fit.name)
      { width := .number (.int 2), height := .number (.int 2) } = .ok a ∧
    p ∈ a.shown (.filled .rgb 4 2 fun _ => 0) ∧ ¬(p.width ≤ 2 ∧ p.height ≤ 2) := by
  let o : Options := { width := .number (.int 2), height := .number (.int 2) }
  let r : Raster := .filled .rgb 4 2 fun _ => 0
  have asks : o.Asks 2 2 := ⟨rfl, rfl⟩
  have decoded := still_blackFile .png
  have answers := fit_found (o := o) (f := .png) none {} (Disk.read {}) decoded (by decide)
    (by decide) (by decide) (by decide) asks (by decide) (by decide) (by decide) (by decide) rfl rfl
    (by decide)
  obtain ⟨a, answered⟩ := answers.found ⟨⟨by decide, by decide⟩, by decide, by decide⟩
  obtain ⟨some_, boxed⟩ :=
    fit_boxed decoded (by decide) (by decide) asks (by decide) (by decide) answered
  obtain ⟨p, member⟩ := List.exists_mem_of_ne_nil _ some_
  have declined : Declined o 2 2 r := ⟨rfl, .inr (le_refl _)⟩
  have wide : p.width = 4 := ((boxed p member).kept declined).1
  exact ⟨a, p, answered, member, by omega⟩

/-- With enlarging allowed the same picture is brought into the same box. -/
theorem blackFile_fits : ∃ e,
    reply none {} (Disk.read {}) (some (blackFile .png)) (.text Operation.fit.name)
      { width := .number (.int 2), height := .number (.int 2), upscale := .flag true } =
        .ok (.encoded e) ∧
    ∀ p ∈ e.pictures, p.width ≤ 2 ∧ p.height ≤ 2 := by
  let o : Options :=
    { width := .number (.int 2), height := .number (.int 2), upscale := .flag true }
  have asks : o.Asks 2 2 := ⟨rfl, rfl⟩
  have valid : o.validate = .ok () := rfl
  have found : answerFormat (some (blackFile .png)) o = .ok .png := rfl
  obtain ⟨inside, answers⟩ := fit_inside_iff none {} (Disk.read {}) (still_blackFile .png)
    (by decide) (by decide) (by decide) (by decide) asks (by decide) (by decide)
  obtain ⟨a, answered⟩ := (answers (by decide) (by decide) valid .png (by decide) found).found
    ⟨⟨by decide, by decide⟩, by decide, by decide⟩
  cases a with
  | unchanged => exact absurd answered (reply_ne_unchanged_of_upscale rfl)
  | encoded e =>
      obtain ⟨-, shown⟩ := inside _ answered
      exact ⟨e, answered, fun p member => (shown p member).1.mpr (.inl rfl)⟩

end Engine

end Darkroom
