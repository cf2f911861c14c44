/-
# Darkroom.Proofs.Written -- from pictures to what is written

A picture is written alone and keeps its size (`ofPicture_eq_ok`).  An animation is
written where its numbers fit the fields of its file, `Recordable`; its pictures
share its size (`pictures_size`), and its first one is written first
(`head?_pictures`).
-/
import Darkroom.Encoding
import Darkroom.Proofs.Dithering
import Darkroom.Proofs.Folding

namespace Darkroom

set_option autoImplicit false

namespace Watermark

theorem stamped_size {base p : Raster} {mark : Mark} {opacity : Int}
    (made : stamped base mark opacity = .ok p) :
    p.width = base.width ∧ p.height = base.height := by
  obtain ⟨canvas, -, made⟩ := Outcome.bind_eq_ok.mp made
  split_ifs at made <;> obtain rfl := Except.ok.inj made <;> exact ⟨rfl, rfl⟩

/-- A picture is stamped with the mark that is chosen for it. -/
theorem compose_eq_ok {base p : Raster} {marks : Marks} {opacity : Int} {choice : Choice} :
    (compose base marks opacity).outcome = .ok (choice, p) ↔
      (choose base).outcome = .ok choice ∧
        stamped base (marks.get choice.variant) opacity = .ok p := by
  simp only [compose, Logged.outcome_bind, Logged.outcome_lift, Logged.outcome_pure,
    Outcome.bind_eq_ok]
  constructor
  · rintro ⟨choice', chosen, p', laid, made⟩
    cases made
    exact ⟨chosen, laid⟩
  · rintro ⟨chosen, laid⟩
    exact ⟨choice, chosen, p, laid, rfl⟩

theorem compose_size {base : Raster} {marks : Marks} {opacity : Int} {choice : Choice × Raster}
    (made : (compose base marks opacity).outcome = .ok choice) :
    choice.2.width = base.width ∧ choice.2.height = base.height :=
  stamped_size (compose_eq_ok.mp made).2

end Watermark

namespace Encoding

variable {r : Raster} {f : Format} {quality : Value} {marks : Option Marks} {e : Encoding}

/-- The file of one picture. -/
def single (f : Format) (r : Raster) (quality : Value) : Encoding :=
  match f with
  | .jpeg => .jpeg r quality
  | .png => .png r
  | .gif => .gif r
  | .tiff => .tiff r
  | .bmp => .bmp r

@[simp] theorem pictures_single : (single f r quality).pictures = [r] := by
  cases f <;> rfl

theorem single_ne_animation (a : Animation) : single f r quality ≠ .animation a := by
  cases f <;> exact Encoding.noConfusion

theorem stampedJpeg_eq_ok (made : (stampedJpeg r quality marks).outcome = .ok e) :
    ∃ p, e = .jpeg p quality ∧ p.width = r.width ∧ p.height = r.height := by
  cases marks with
  | none => cases made
  | some marks =>
      rw [stampedJpeg, Logged.outcome_bind, Outcome.bind_eq_ok] at made
      obtain ⟨choice, composed, made⟩ := made
      simp only [Logged.outcome_bind, Logged.outcome_lift, Outcome.outcome_ite] at made
      obtain ⟨p, converted, made⟩ := Outcome.bind_eq_ok.mp made
      obtain ⟨-, -, made⟩ := Outcome.bind_eq_ok.mp made
      obtain ⟨width, height⟩ := Watermark.compose_size composed
      obtain ⟨sameWidth, sameHeight⟩ := Raster.toRgb_size converted
      split_ifs at made
      · exact ⟨p, (Except.ok.inj made).symm, sameWidth.trans width, sameHeight.trans height⟩
      · cases made

/-- A picture is written alone, and no format changes its size. -/
theorem ofPicture_eq_ok (made : (ofPicture r f quality marks).outcome = .ok e) :
    ∃ p, e = single f p quality ∧ p.width = r.width ∧ p.height = r.height := by
  cases f
  case jpeg => exact stampedJpeg_eq_ok made
  case png | tiff =>
    simp only [ofPicture, checked, Logged.outcome_bind, Logged.outcome_lift] at made
    split_ifs at made <;> cases made
    exact ⟨r, rfl, rfl, rfl⟩
  case gif =>
    simp only [ofPicture, palettedGif, Logged.outcome_lift] at made
    obtain ⟨p, reduced, made⟩ := Outcome.bind_eq_ok.mp made
    obtain ⟨-, -, made⟩ := Outcome.bind_eq_ok.mp made
    obtain ⟨-, -, made⟩ := Outcome.bind_eq_ok.mp made
    exact ⟨p, (Except.ok.inj made).symm, Raster.paletted_size reduced⟩
  case bmp =>
    simp only [ofPicture, Outcome.outcome_ite] at made
    split_ifs at made
    · exact ⟨r, (Except.ok.inj made).symm, rfl, rfl⟩
    · rw [Logged.outcome_bind, Outcome.bind_eq_ok] at made
      obtain ⟨p, normalized, made⟩ := made
      exact ⟨p, (Except.ok.inj made).symm, Raster.normalized_size normalized⟩

/-- The formats that keep an RGB picture as it is. -/
def lossless : List Format := [.png, .tiff, .bmp]

theorem ofPicture_of_rgb (isRgb : r.mode = .rgb) (keeps : f ∈ lossless) :
    (ofPicture r f quality marks).outcome = .ok (single f r quality) := by
  have allowed (modes : List Mode) (member : modes.contains .rgb = true) :
      checked modes r = .ok r := by
    rw [checked, isRgb, if_pos member]
  cases f
  case png => simp [ofPicture, allowed pngModes (by decide), single]
  case tiff => simp [ofPicture, allowed tiffModes (by decide), single]
  case bmp =>
    have member : bmpModes.contains r.mode = true := by rw [isRgb]; decide
    simp only [ofPicture, member, if_true, Logged.outcome_pure, single]
  case jpeg | gif => exact absurd keeps (by decide)

/-- The numbers of an animation fit the fields of its file. -/
structure Recordable (a : Animation) : Prop where
  width : checkedField a.width = .ok ()
  height : checkedField a.height = .ok ()
  loop : ∀ n, a.loop = some n → checkedField n = .ok ()
  delays : ∀ s ∈ a.written, checkedField (delay s.timing) = .ok ()

theorem checkDelays_iff (shots : List Shot) :
    (forIn (m := Outcome) shots PUnit.unit fun s _ => do
      checkedField (delay s.timing)
      return ForInStep.yield PUnit.unit) = .ok PUnit.unit ↔
        ∀ s ∈ shots, checkedField (delay s.timing) = .ok () := by
  induction shots with
  | nil => simp
  | cons s rest ih =>
      rw [List.forIn_cons, List.forall_mem_cons, ← ih]
      cases checkedField (delay s.timing) <;> simp

theorem ofAnimation_eq_ok {a : Animation} :
    ofAnimation a = .ok e ↔ e = .animation a ∧ Recordable a := by
  have delays := checkDelays_iff a.written
  unfold ofAnimation
  constructor
  · intro made
    obtain ⟨⟨⟩, width, made⟩ := Outcome.bind_eq_ok.mp made
    obtain ⟨⟨⟩, height, made⟩ := Outcome.bind_eq_ok.mp made
    cases loop : a.loop with
    | none =>
        simp only [loop] at made
        obtain ⟨⟨⟩, all, made⟩ := Outcome.bind_eq_ok.mp made
        exact ⟨(Except.ok.inj made).symm, width, height, by simp [loop], delays.mp all⟩
    | some n =>
        simp only [loop] at made
        obtain ⟨⟨⟩, checked, made⟩ := Outcome.bind_eq_ok.mp made
        obtain ⟨⟨⟩, all, made⟩ := Outcome.bind_eq_ok.mp made
        exact ⟨(Except.ok.inj made).symm, width, height, by simp [loop, checked], delays.mp all⟩
  · rintro ⟨rfl, width, height, loops, all⟩
    have checked := delays.mpr all
    cases loop : a.loop with
    | none =>
        simp only [width, height, Outcome.ok_bind]
        exact Outcome.bind_eq_ok.mpr ⟨(), checked, rfl⟩
    | some n =>
        simp only [width, height, loops n loop, Outcome.ok_bind]
        exact Outcome.bind_eq_ok.mpr ⟨(), checked, rfl⟩

/-- The pictures of an animation as they are written have its size. -/
theorem pictures_size (a : Animation) :
    ∀ p ∈ (Encoding.animation a).pictures, p.width = a.width ∧ p.height = a.height := by
  intro p member
  obtain ⟨s, inside, rfl⟩ := List.mem_map.mp member
  obtain ⟨t, shown, same⟩ := Shot.mem_folded inside
  rw [same]
  exact a.sized t shown

/-- The first picture of an animation as it is written. -/
theorem head?_pictures {a : Animation} {p : Raster} {later : List Raster} {t : Timing}
    {timings : List Timing} (shots : a.shots = (p :: later).zipWith Shot.mk (t :: timings)) :
    (Encoding.animation a).pictures.head? = some p := by
  obtain ⟨u, written, folded⟩ := Shot.foldOnto_head ⟨p, t⟩ (later.zipWith Shot.mk timings)
  rw [pictures, Animation.written, shots, List.zipWith_cons_cons, Shot.folded, folded]
  rfl

end Encoding

end Darkroom
