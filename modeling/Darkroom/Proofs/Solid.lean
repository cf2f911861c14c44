/-
# Darkroom.Proofs.Solid -- an opaque picture keeps its colours in RGBA

`Raster.solid` is an RGB picture written out in RGBA with every pixel opaque.
Every operation that the engine runs on a picture commutes with it: turning it
over, premultiplying and dividing again, resampling, reducing to the palette.
So whether a picture is worked on in RGB or on an RGBA canvas makes no
difference (`Step.run_solid`, `paletted_solid`), and laying an opaque picture
over an empty canvas gives that canvas (`overlaid_empty`).
-/
import Darkroom.Animation.Transformed
import Darkroom.Proofs.Dithering
import Darkroom.Proofs.Running
import Mathlib.Data.List.Basic
import Mathlib.Tactic.IntervalCases

namespace Darkroom

set_option autoImplicit false

namespace Raster

/-- An RGB picture in RGBA, opaque everywhere. -/
def solid (r : Raster) : Raster :=
  ofPixels r.width r.height fun x y => ⟨r.byteAt x y 0, r.byteAt x y 1, r.byteAt x y 2, 255⟩

section

variable (r : Raster)

@[simp] theorem solid_mode : r.solid.mode = .rgba := rfl

@[simp] theorem solid_width : r.solid.width = r.width := rfl

@[simp] theorem solid_height : r.solid.height = r.height := rfl

theorem byteAt_solid {x y c : Nat} (hx : x < r.width) (hy : y < r.height) (hc : c < 3) :
    r.solid.byteAt x y c = r.byteAt x y c := by
  rw [solid, byteAt_ofPixels hx hy (by omega)]
  interval_cases c <;> rfl

theorem alphaAt_solid {x y : Nat} (hx : x < r.width) (hy : y < r.height) :
    r.solid.byteAt x y 3 = 255 := by
  rw [solid, byteAt_ofPixels hx hy (by omega)]
  rfl

variable {r}

/-- What makes a picture the solid form of an RGB picture. -/
theorem eq_solid {s : Raster} (mode : s.mode = .rgba) (width : s.width = r.width)
    (height : s.height = r.height) (palette : s.palette = ⟨#[]⟩)
    (transparency : s.transparency = .none)
    (color : ∀ x y c, x < r.width → y < r.height → c < 3 → s.byteAt x y c = r.byteAt x y c)
    (alpha : ∀ x y, x < r.width → y < r.height → s.byteAt x y 3 = 255) : s = r.solid := by
  refine ext_bytes mode width height palette transparency fun x y c hx hy hc => ?_
  rw [width] at hx
  rw [height] at hy
  rw [mode] at hc
  rcases Nat.lt_or_ge c 3 with below | above
  · rw [color x y c hx hy below, byteAt_solid r hx hy below]
  · obtain rfl : c = 3 := Nat.le_antisymm (Nat.le_of_lt_succ hc) above
    rw [alpha x y hx hy, alphaAt_solid r hx hy]

/-- A picture that is mapped in RGBA as in RGB, with opaque pixels as the result. -/
theorem remap_solid {width height : Nat} {f g : Nat → Nat → Nat → UInt8} (isRgb : r.mode = .rgb)
    (color : ∀ x y c, x < width → y < height → c < 3 → f x y c = g x y c)
    (alpha : ∀ x y, x < width → y < height → f x y 3 = 255) :
    r.solid.remap width height f = (r.remap width height g).solid := by
  apply eq_solid (s := r.solid.remap width height f) (r := r.remap width height g) rfl rfl rfl rfl rfl
  · intro x y c (hx : x < width) (hy : y < height) hc
    have inRgba : c < r.solid.mode.bytes := Nat.lt_succ_of_lt hc
    have inRgb : c < r.mode.bytes := isRgb ▸ hc
    rw [byteAt_remap hx hy inRgba, byteAt_remap hx hy inRgb]
    exact color x y c hx hy hc
  · intro x y (hx : x < width) (hy : y < height)
    have inRgba : 3 < r.solid.mode.bytes := Nat.lt_succ_self 3
    rw [byteAt_remap hx hy inRgba]
    exact alpha x y hx hy

/-! ## Turning over -/

theorem transformed_solid (isRgb : r.mode = .rgb) (t : Symmetry) :
    r.solid.transformed t = (r.transformed t).solid := by
  cases t
  case quarterTurn =>
    exact remap_solid isRgb
      (fun x y c hx hy hc => byteAt_solid r (by simp at hy ⊢; omega) hx hc)
      (fun x y hx hy => alphaAt_solid r (by simp at hy ⊢; omega) hx)
  case halfTurn =>
    exact remap_solid isRgb
      (fun x y c hx hy hc => byteAt_solid r (by simp at hx ⊢; omega) (by simp at hy ⊢; omega) hc)
      (fun x y hx hy => alphaAt_solid r (by simp at hx ⊢; omega) (by simp at hy ⊢; omega))
  case threeQuarterTurn =>
    exact remap_solid isRgb
      (fun x y c hx hy hc => byteAt_solid r hy (by simp at hx ⊢; omega) hc)
      (fun x y hx hy => alphaAt_solid r hy (by simp at hx ⊢; omega))
  case mirror =>
    exact remap_solid isRgb
      (fun x y c hx hy hc => byteAt_solid r (by simp at hx ⊢; omega) hy hc)
      (fun x y hx hy => alphaAt_solid r (by simp at hx ⊢; omega) hy)
  case upsideDown =>
    exact remap_solid isRgb
      (fun x y c hx hy hc => byteAt_solid r hx (by simp at hy ⊢; omega) hc)
      (fun x y hx hy => alphaAt_solid r hx (by simp at hy ⊢; omega))

/-! ## Resampling -/

theorem scale_full (v : UInt8) : Channel.scaleByte v 255 = v := by
  have byte := v.toNat_lt
  have same : Channel.scale v.toNat 255 = v.toNat := by
    unfold Channel.scale
    dsimp only
    omega
  rw [Channel.scaleByte, show (255 : UInt8).toNat = 255 from rfl, same, UInt8.ofNat_toNat]

theorem unscale_full (v : UInt8) : Channel.unscaleByte v 255 = v := by
  rw [Channel.unscaleByte, Channel.unscale, if_pos (.inr rfl), UInt8.ofNat_toNat]

theorem premultiplied_solid (isRgb : r.mode = .rgb) : r.solid.premultiplied 3 = r.solid := by
  conv_rhs => rw [← remap_self r]
  apply remap_solid isRgb
  · intro x y c hx hy hc
    rw [if_neg (by omega), alphaAt_solid r hx hy, scale_full, byteAt_solid r hx hy hc]
  · intro x y hx hy
    rw [if_pos rfl, alphaAt_solid r hx hy]

theorem unpremultiplied_solid (isRgb : r.mode = .rgb) : r.solid.unpremultiplied 3 = r.solid := by
  conv_rhs => rw [← remap_self r]
  apply remap_solid isRgb
  · intro x y c hx hy hc
    rw [if_neg (by omega), alphaAt_solid r hx hy, unscale_full, byteAt_solid r hx hy hc]
  · intro x y hx hy
    rw [if_pos rfl, alphaAt_solid r hx hy]

theorem resampleRows_solid (isRgb : r.mode = .rgb) (f : Filter) (s : Span) (count : Nat)
    (wide : 0 < r.width) : r.solid.resampleRows f s count = (r.resampleRows f s count).solid := by
  rw [resampleRows_eq r.solid f s count wide, resampleRows_eq r f s count wide]
  apply remap_solid isRgb
  · intro x y c hx hy hc
    apply Window.mean_congr
    intro k hk
    rw [byteAt_solid r hk hy hc]
  · intro x y hx hy
    rw [← Window.mean_full]
    apply Window.mean_congr
    intro k hk
    rw [alphaAt_solid r hk hy]
    rfl

theorem resampleColumns_solid (isRgb : r.mode = .rgb) (f : Filter) (s : Span) (count : Nat)
    (tall : 0 < r.height) :
    r.solid.resampleColumns f s count = (r.resampleColumns f s count).solid := by
  rw [resampleColumns_eq r.solid f s count tall, resampleColumns_eq r f s count tall]
  apply remap_solid isRgb
  · intro x y c hx hy hc
    apply Window.mean_congr
    intro k hk
    rw [byteAt_solid r hx hk hc]
  · intro x y hx hy
    rw [← Window.mean_full]
    apply Window.mean_congr
    intro k hk
    rw [alphaAt_solid r hx hk]
    rfl

theorem resampleBytes_solid (isRgb : r.mode = .rgb) (f : Filter) (region : Region)
    (width height : Nat) (wide : 0 < r.width) (tall : 0 < r.height) :
    r.solid.resampleBytes f region width height = (r.resampleBytes f region width height).solid := by
  have rowsRgb : (r.resampleRows f region.across width).mode = .rgb :=
    (sameKind_resampleRows r f _ _).mode.trans isRgb
  have rowsTall : 0 < (r.resampleRows f region.across width).height := by simpa using tall
  cases across : region.across.isIdentity r.width width <;>
    cases down : region.down.isIdentity r.height height <;>
    simp only [resampleBytes, solid_width, solid_height, across, down, if_true,
      Bool.false_eq_true, if_false]
  · rw [resampleRows_solid isRgb f _ _ wide, resampleColumns_solid rowsRgb f _ _ rowsTall]
  · exact resampleRows_solid isRgb f _ _ wide
  · exact resampleColumns_solid isRgb f _ _ tall

theorem resampled_solid (isRgb : r.mode = .rgb) (f : Filter) (region : Region)
    (width height : Nat) (wide : 0 < r.width) (tall : 0 < r.height) :
    r.solid.resampled f region width height = (r.resampled f region width height).solid := by
  have bytesRgb : (r.resampleBytes f region width height).mode = .rgb :=
    (sameKind_resampleBytes r f _ _ _).mode.trans isRgb
  have whole : r.solid.isWhole region width height = r.isWhole region width height := rfl
  unfold resampled
  rw [whole, isRgb, solid_mode]
  split_ifs
  · rfl
  · simp only [alphaChannel?]
    rw [premultiplied_solid isRgb, resampleBytes_solid isRgb f region width height wide tall,
      unpremultiplied_solid bytesRgb]

/-- A resample accepts the same sizes in RGBA as in RGB, and gives the same colours. -/
theorem resized_solid (isRgb : r.mode = .rgb) (f : Filter) (region : Region) (width height : Number)
    (wide : 0 < r.width) (tall : 0 < r.height) :
    r.solid.resized f region width height = (r.resized f region width height).map solid := by
  have whole (w h : Nat) : r.solid.isWhole region w h = r.isWhole region w h := rfl
  have room (w h : Nat) : r.solid.hasRoom f region w h = r.hasRoom f region w h := by
    rw [hasRoom, hasRoom, isRgb, solid_mode, solid_width, solid_height]
  unfold resized
  simp only [solid_width, solid_height, whole, room]
  cases width <;> cases height <;> dsimp only <;> split_ifs <;>
    simp [Except.map, resampled_solid isRgb f region _ _ wide tall]

/-! ## Reducing and laying over -/

theorem toRgb_of_rgb (isRgb : r.mode = .rgb) : r.toRgb = .ok r := by
  rw [toRgb, if_pos isRgb]

/-- The palette is chosen by the colours alone. -/
theorem paletted_solid (isRgb : r.mode = .rgb) (colors : Int) :
    r.solid.paletted colors = r.paletted colors := by
  have asRgb : r.solid.toRgb =
      .ok (tabulate .rgb r.width r.height fun x y c => (r.solid.pixelAt x y).channel c) := rfl
  have colored (palette : Palette) (chart : Palette.Chart) :
      (tabulate .rgb r.width r.height fun x y c => (r.solid.pixelAt x y).channel c).dithered
        palette chart = r.dithered palette chart := by
    refine dithered_congr palette chart ?_ ?_ ?_
    · rfl
    · rfl
    · intro x y c (hx : x < r.width) (hy : y < r.height) hc
      rw [byteAt_tabulate hx hy hc, solid, pixelAt_ofPixels hx hy]
      interval_cases c <;> rfl
  simp only [paletted, asRgb, toRgb_of_rgb isRgb, Outcome.ok_bind, colored]

/-- A picture that is brought to RGB is opaque, and keeps its size and colours. -/
theorem pixelAt_of_normalized {p : Raster} (made : p.normalized = .ok r) (isRgb : r.mode = .rgb) :
    r.width = p.width ∧ r.height = p.height ∧ ∀ x y, x < p.width → y < p.height →
      p.pixelAt x y = ⟨r.byteAt x y 0, r.byteAt x y 1, r.byteAt x y 2, 255⟩ := by
  cases alpha : p.hasAlpha
  case true =>
    rw [normalized, alpha, if_pos rfl, toRgba] at made
    split_ifs at made with isRgba convertible <;> cases made
    · rw [isRgba] at isRgb
      cases isRgb
    · cases isRgb
  case false =>
    rw [normalized, alpha, if_neg (by simp), toRgb] at made
    split_ifs at made with rgb convertible <;> cases made
    · refine ⟨rfl, rfl, fun x y _ _ => ?_⟩
      have opaque_ := alpha_pixelAt alpha x y
      simp only [pixelAt, rgb] at opaque_ ⊢
      rw [opaque_]
    · refine ⟨rfl, rfl, fun x y hx hy => ?_⟩
      have opaque_ := alpha_pixelAt alpha x y
      rw [byteAt_tabulate hx hy (by decide), byteAt_tabulate hx hy (by decide),
        byteAt_tabulate hx hy (by decide), ← opaque_]
      rfl

/-- An opaque picture over an empty canvas of its size. -/
theorem overlaid_empty {p : Raster} (made : p.normalized = .ok r) (isRgb : r.mode = .rgb) :
    (Animation.emptyCanvas p.width p.height).overlaid p = r.solid := by
  obtain ⟨width, height, color⟩ := pixelAt_of_normalized made isRgb
  rw [solid, width, height]
  apply ofPixels_congr
  intro x y (hx : x < p.width) (hy : y < p.height)
  rw [if_pos ⟨hx, hy⟩, Rgba.above_of_solid (by rw [color x y hx hy]), color x y hx hy]

end

end Raster

/-! ## Steps -/

namespace Step

variable {r : Raster}

theorem drawn_solid (isRgb : r.mode = .rgb) (step : Step) (w h : Number) (wide : 0 < r.width)
    (tall : 0 < r.height) : step.drawn r.solid w h = (step.drawn r w h).map Raster.solid := by
  cases step
  case resize => exact Raster.resized_solid isRgb _ _ _ _ wide tall
  case thumbnail =>
    have region : coverRegion r.solid w h = coverRegion r w h := rfl
    rw [drawn, region, drawn, Outcome.map_bind]
    exact bind_congr fun cut => Raster.resized_solid isRgb _ _ _ _ wide tall
  case fit =>
    rw [drawn, Raster.solid_width, Raster.solid_height, drawn, Outcome.map_bind]
    refine bind_congr fun box => ?_
    rcases box with - | ⟨w, h⟩
    · rfl
    · exact Raster.resized_solid isRgb _ _ _ _ wide tall
  case rotate | flip => rfl

/-- A step accepts an opaque picture in RGBA as in RGB, and gives the same colours. -/
theorem run_solid (isRgb : r.mode = .rgb) (step : Step)
    (pixels : step.resamples = true → 0 < r.width ∧ 0 < r.height) :
    step.run r.solid = (step.run r).map Raster.solid := by
  rcases step.turn_or_sides with ⟨turn, turns⟩ | ⟨width, height, given⟩
  · rw [run_of_turn turns, run_of_turn turns, Raster.transformed_solid isRgb]
    rfl
  · obtain ⟨wide, tall⟩ := pixels (resamples_of_sides given)
    have target : targetSides width height r.solid = targetSides width height r := rfl
    rw [run_of_sides given, run_of_sides given, target, Outcome.map_bind]
    refine bind_congr fun sides => ?_
    rcases sides with - | ⟨a, b⟩
    · rfl
    · simp only [Outcome.map_bind]
      exact bind_congr fun w => bind_congr fun h => drawn_solid isRgb step w h wide tall

end Step

end Darkroom
