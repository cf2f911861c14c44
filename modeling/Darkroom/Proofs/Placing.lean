/-
# Darkroom.Proofs.Placing -- the mark stays in its box

A mark is laid over the centre of a picture: the margins on its two sides differ by one
at most, and are negative where the mark is the larger of the two (`centred`).  The
picture is stamped pixel by pixel (`pixelAt_stamped`), with nothing outside of the box
and with the faded pixel of the mark inside it.  Nothing that is drawn leaves a pixel as
it is, hidden colour included, and on an opaque picture a faded pixel moves a channel
by little more than a quarter of the way at most: `Confined`.
-/
import Darkroom.Proofs.Blending
import Darkroom.Proofs.Choosing

namespace Darkroom.Watermark

set_option autoImplicit false

/-! ## The box -/

/-- A mark lies in the middle of an axis, `front` places from its start. -/
structure Centred (base mark : Nat) (front : Int) : Prop where
  even : |front - (base - (front + mark))| ≤ 1
  inside : mark ≤ base → 0 ≤ front ∧ front + mark ≤ base

theorem centred (base mark : Nat) : Centred base mark (centerOffset base mark) := by
  have offset : centerOffset base mark = base / 2 - mark / 2 := by
    rw [centerOffset, Int.fdiv_eq_ediv_of_nonneg _ (by decide),
      Int.fdiv_eq_ediv_of_nonneg _ (by decide)]
  constructor
  · rw [offset, abs_le]
    omega
  · omega

/-- A place of the base is in the box of the mark. -/
structure InBox (base mark : Raster) (x y : Nat) : Prop where
  across : centerOffset base.width mark.width ≤ x ∧
    x < centerOffset base.width mark.width + mark.width
  down : centerOffset base.height mark.height ≤ y ∧
    y < centerOffset base.height mark.height + mark.height

/-- The pixel of the mark that lies over a place in its box. -/
def markAt (base mark : Raster) (x y : Nat) : Rgba :=
  mark.pixelAt (x - centerOffset base.width mark.width).toNat
    (y - centerOffset base.height mark.height).toNat

/-- The share of 255 that is left of an alpha at the default opacity. -/
def share (alpha : UInt8) : Nat := alpha.toNat * 64 / 255

theorem share_le (alpha : UInt8) : share alpha ≤ 64 := by
  have byte := alpha.toNat_lt
  unfold share
  omega

theorem toNat_faded (alpha : UInt8) : (faded alpha defaultOpacity).toNat = share alpha := by
  have low := share_le alpha
  have scaled : ((alpha.toNat : Int) * defaultOpacity).fdiv 255 = share alpha := by
    rw [Int.fdiv_eq_ediv_of_nonneg _ (by decide)]
    rfl
  rw [faded, Channel.clip, scaled, Int.toNat_natCast, UInt8.toNat_ofNat']
  omega

section Overlay

variable {base mark : Raster} {opacity : Int} {x y : Nat}

/-- What is laid over a place of the base. -/
def drawnAt (base mark : Raster) (opacity : Int) (x y : Nat) : Rgba :=
  overlayAt mark (centerOffset base.width mark.width) (centerOffset base.height mark.height)
    opacity x y

theorem drawnAt_outside (away : ¬InBox base mark x y) :
    drawnAt base mark opacity x y = .transparent := by
  unfold drawnAt overlayAt
  rw [if_neg]
  rintro ⟨left, right, top, bottom⟩
  exact away ⟨by omega, by omega⟩

theorem drawnAt_inside (within : InBox base mark x y) : drawnAt base mark opacity x y =
    { markAt base mark x y with alpha := faded (markAt base mark x y).alpha opacity } := by
  obtain ⟨⟨left, right⟩, top, bottom⟩ := within
  unfold drawnAt overlayAt
  rw [if_pos]
  · rfl
  · omega

theorem alpha_drawnAt (within : InBox base mark x y) :
    (drawnAt base mark opacity x y).alpha = faded (markAt base mark x y).alpha opacity := by
  rw [drawnAt_inside within]

/-- Only the alpha of the mark is turned down. -/
theorem channel_drawnAt (within : InBox base mark x y) {c : Nat} (color : c < 3) :
    (drawnAt base mark opacity x y).channel c = (markAt base mark x y).channel c := by
  rw [drawnAt_inside within]
  obtain rfl | rfl | rfl : c = 0 ∨ c = 1 ∨ c = 2 := by omega
  all_goals rfl

end Overlay

/-! ## The picture -/

section Stamped

variable {base p : Raster} {mark : Mark} {opacity : Int}

/-- A picture is stamped pixel by pixel. -/
theorem pixelAt_stamped (decoded : base.IsDecoded) (made : stamped base mark opacity = .ok p) :
    p.mode = base.mode ∧ ∀ x < base.width, ∀ y < base.height, p.pixelAt x y =
      (drawnAt base mark.raster opacity x y).above (base.pixelAt x y) := by
  obtain ⟨canvas, converted, made⟩ := Outcome.bind_eq_ok.mp made
  have shown (x y : Nat) (hx : x < base.width) (hy : y < base.height) :
      canvas.pixelAt x y = base.pixelAt x y := Raster.pixelAt_toRgba converted hx hy
  rcases decoded with isRgba | ⟨isRgb, plain⟩
  · have keeps : keepsAlpha base = true := by
      rw [keepsAlpha, isRgba]
      rfl
    rw [if_pos keeps] at made
    obtain rfl := Except.ok.inj made
    refine ⟨isRgba.symm, fun x hx y hy => ?_⟩
    rw [Raster.pixelAt_ofPixels hx hy, shown x y hx hy]
    rfl
  · have drops : ¬keepsAlpha base = true := by
      rw [keepsAlpha, isRgb, plain]
      decide
    have bare : base.hasAlpha = false := by
      rw [Raster.hasAlpha, isRgb, plain]
      rfl
    rw [if_neg drops] at made
    obtain rfl := Except.ok.inj made
    refine ⟨isRgb.symm, fun x hx y hy => ?_⟩
    have solid : (canvas.pixelAt x y).alpha = 255 := by
      rw [shown x y hx hy]
      exact Raster.alpha_pixelAt bare x y
    rw [Raster.pixelAt_ofColors hx hy (Rgba.above_solid solid _).1, shown x y hx hy]
    rfl

end Stamped

/-- What becomes of a picture that is stamped with a mark. -/
structure Confined (base mark p : Raster) : Prop where
  mode : p.mode = base.mode
  size : p.width = base.width ∧ p.height = base.height
  across : Centred base.width mark.width (centerOffset base.width mark.width)
  down : Centred base.height mark.height (centerOffset base.height mark.height)
  kept : ∀ x < base.width, ∀ y < base.height,
    ¬InBox base mark x y ∨ share (markAt base mark x y).alpha = 0 →
      p.pixelAt x y = base.pixelAt x y
  faint : ∀ x < base.width, ∀ y < base.height, InBox base mark x y →
    (base.pixelAt x y).alpha = 255 → (p.pixelAt x y).alpha = 255 ∧
      share (markAt base mark x y).alpha ≤ 64 ∧ ∀ c < 3,
        Rgba.Moved (share (markAt base mark x y).alpha) ((markAt base mark x y).channel c).toNat
          ((base.pixelAt x y).channel c).toNat ((p.pixelAt x y).channel c).toNat

theorem confined_of_stamped {base p : Raster} {mark : Mark} (decoded : base.IsDecoded)
    (made : stamped base mark defaultOpacity = .ok p) : Confined base mark.raster p := by
  obtain ⟨mode, pixel⟩ := pixelAt_stamped decoded made
  refine ⟨mode, stamped_size made, centred _ _, centred _ _, ?_, ?_⟩
  · intro x hx y hy untouched
    rw [pixel x hx y hy]
    apply Rgba.above_of_clear
    by_cases within : InBox base mark.raster x y
    · have gone := untouched.resolve_left (not_not_intro within)
      rw [alpha_drawnAt within, ← UInt8.toNat_inj]
      exact (toNat_faded _).trans gone
    · rw [drawnAt_outside within]
      rfl
  · intro x hx y hy within solid
    rw [pixel x hx y hy]
    obtain ⟨alpha, mixed⟩ := Rgba.above_solid solid
      (drawnAt base mark.raster defaultOpacity x y)
    have low := share_le (markAt base mark.raster x y).alpha
    refine ⟨alpha, low, fun c color => ?_⟩
    rw [mixed c color, alpha_drawnAt within, toNat_faded, channel_drawnAt within color]
    exact Rgba.moved_mixed (low.trans (by decide))

/-- The stamp is confined, centred and faint.  A picture as it is decoded, of any ordinary
size, can be stamped at the default opacity, if there is room to find its colour, and
whatever mark its colours pick, it keeps its mode and size, and every pixel that the mark
does not reach. -/
theorem stamp_confined {base : Raster} (decoded : base.IsDecoded) (marks : Marks) :
    (0 < base.width → 0 < base.height → base.width < 2 ^ 31 → base.height < 2 ^ 31 →
      Outcome.RoomAllows base.IsShort (compose base marks defaultOpacity).outcome) ∧
    ∀ choice p, (compose base marks defaultOpacity).outcome = .ok (choice, p) →
      Confined base (marks.get choice.variant).raster p := by
  constructor
  · intro wide tall narrow low
    have colours : base.isConvertible = true :=
      Raster.isConvertible_of_plain decoded.plain
    exact compose_found marks defaultOpacity colours wide tall narrow low
  · intro choice p composed
    exact confined_of_stamped decoded (compose_eq_ok.mp composed).2

/-- A gray page. -/
def page : Raster := .filled .rgb 3 3 fun _ => 200

/-- A white bar that is longer than the page, opaque throughout. -/
def bar : Mark := ⟨.filled .rgba 1 5 fun _ => 255, rfl⟩

/-- Stamped with the bar, the page keeps its left column, and the middle one gets a
little brighter. -/
theorem page_stamped : ∃ choice p,
    (compose page ⟨bar, bar⟩ defaultOpacity).outcome = .ok (choice, p) ∧
      p.pixelAt 0 2 = ⟨200, 200, 200, 255⟩ ∧
        200 ≤ (p.pixelAt 1 0).red.toNat ∧ (p.pixelAt 1 0).red.toNat ≤ 214 := by
  obtain ⟨found, confined⟩ := stamp_confined (show page.IsDecoded from .inr ⟨rfl, rfl⟩) ⟨bar, bar⟩
  obtain ⟨⟨choice, p⟩, composed⟩ :=
    (found (by decide) (by decide) (by decide) (by decide)).found ⟨by decide, by decide⟩
  have within : Confined page bar.raster p := by
    have mark : (Marks.mk bar bar).get choice.variant = bar := by
      cases choice.variant <;> rfl
    have held := confined choice p composed
    rwa [mark] at held
  refine ⟨choice, p, composed, ?_, ?_⟩
  · have away : ¬InBox page bar.raster 0 2 := fun box => absurd box.across.1 (by decide)
    rw [within.kept 0 (by decide) 2 (by decide) (.inl away)]
    decide
  · have box : InBox page bar.raster 1 0 := ⟨by decide, by decide⟩
    obtain ⟨-, -, moved⟩ := within.faint 1 (by decide) 0 (by decide) box (by decide)
    obtain ⟨between, little⟩ := moved 0 (by decide)
    have kept : ((page.pixelAt 1 0).channel 0).toNat = 200 := by decide
    have white : ((markAt page bar.raster 1 0).channel 0).toNat = 255 := by decide
    have faint : share (markAt page bar.raster 1 0).alpha = 64 := by decide
    rw [kept, white] at between little
    rw [faint] at little
    have step : (((p.pixelAt 1 0).channel 0).toNat : ℚ) < 215 := by
      have upper := (le_abs_self _).trans little
      norm_num at upper
      linarith
    exact ⟨between.1, Nat.le_of_lt_succ (Nat.cast_lt.mp step)⟩

end Darkroom.Watermark
