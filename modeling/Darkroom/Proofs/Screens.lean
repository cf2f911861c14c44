/-
# Darkroom.Proofs.Screens -- what a screen can show

A pixel of a GIF screen is drawn in full or not at all, and a screen never gets
smaller than its first image made it.  `Surface.Sharp` says both of a surface.
Drawing, turning to colours and making room keep it; a disposal keeps it where it
goes with the surface that it was made for, `Disposal.Suits`.  So one step keeps
it (`Screen.Sharp.next`), and with the steps all frames of a file are sharp
(`container?_sharp`).
-/
import Darkroom.File.Gif
import Darkroom.Proofs.Pixels

namespace Darkroom

set_option autoImplicit false

/-- A pixel that is drawn in full or not at all. -/
def Rgba.IsSharp (p : Rgba) : Prop := p.alpha = 0 ∨ p.alpha = 255

namespace Raster

variable {r : Raster}

theorem isSharp_of_gray (isGray : r.mode = .gray) (x y : Nat) : (r.pixelAt x y).IsSharp := by
  have mask (t : Transparency) (v : UInt8) : grayMask t v = 0 ∨ grayMask t v = 255 := by
    cases t with
    | key k => exact (em (v = keyByte k)).imp (fun h => if_pos h) fun h => if_neg h
    | none | color | alphas => exact .inr rfl
  rw [pixelAt, isGray]
  exact mask r.transparency (r.grayAt x y)

/-- An index that is drawn or, with a key, not at all. -/
theorem isSharp_of_indexed (isIndexed : r.mode = .indexed)
    (key : ∀ values, r.transparency ≠ .alphas values) (x y : Nat) : (r.pixelAt x y).IsSharp := by
  have mask (index : UInt8) : indexMask r.transparency index = 0 ∨
      indexMask r.transparency index = 255 := by
    cases marked : r.transparency with
    | key k => exact (em ((index.toNat : Int) = k)).imp (fun h => if_pos h) fun h => if_neg h
    | alphas values => exact absurd marked (key values)
    | none | color => exact .inr rfl
  rw [pixelAt, isIndexed]
  exact mask (r.byteAt x y 0)

end Raster

/-- A frame that covers a canvas with sharp pixels. -/
structure Frame.Sharp (f : Frame) (width height : Nat) : Prop where
  width : width ≤ f.picture.width
  height : height ≤ f.picture.height
  pixel : ∀ x y, x < f.picture.width → y < f.picture.height → (f.picture.pixelAt x y).IsSharp

namespace Gif

variable {width height : Nat}

/-! ## Surfaces -/

/-- Every pixel of an RGBA raster is drawn in full or not at all. -/
def SharpAlpha (r : Raster) : Prop :=
  ∀ x y, x < r.width → y < r.height → r.byteAt x y 3 = 0 ∨ r.byteAt x y 3 = 255

/-- A surface of at least a size whose pixels are sharp; a flat one holds indices,
which have no alpha of their own. -/
inductive Surface.Sharp (width height : Nat) : Surface → Prop
  | flat (p : Option Palette) (turns : Bool) (r : Raster) (isGray : r.mode = .gray)
      (wide : width ≤ r.width) (tall : height ≤ r.height) :
      Sharp width height (.flat p turns r)
  | color (opaque_ : Bool) (r : Raster) (isRgba : r.mode = .rgba) (sharp : SharpAlpha r)
      (wide : width ≤ r.width) (tall : height ≤ r.height) :
      Sharp width height (.color opaque_ r)

/-- A disposal that was made for a surface of this kind. -/
inductive Disposal.Suits (width height : Nat) : Disposal → Surface → Prop
  | keep (s : Surface) : Suits width height .keep s
  | index (area : Area) (index : UInt8) (p : Option Palette) (turns : Bool) (r : Raster) :
      Suits width height (.fillIndex area index) (.flat p turns r)
  | pixel (area : Area) (pixel : Rgba) (sharp : pixel.IsSharp) (opaque_ : Bool) (r : Raster) :
      Suits width height (.fillColor area pixel) (.color opaque_ r)
  | flat (area : Area) (before : Surface) (p : Option Palette) (turns : Bool) (r : Raster) :
      Suits width height (.restore area before) (.flat p turns r)
  | color (area : Area) (wasOpaque : Bool) (before : Raster) (sharp : SharpAlpha before)
      (isRgba : before.mode = .rgba) (opaque_ : Bool) (r : Raster) :
      Suits width height (.restore area (.color wasOpaque before)) (.color opaque_ r)

section Surfaces

variable {s t : Surface} {r : Raster} {i : Image} {palette : Option Palette}

/-- Bytes painted over sharp pixels are sharp where their alpha is. -/
theorem sharpAlpha_painted (isRgba : r.mode = .rgba) (sharp : SharpAlpha r) (area : Area)
    {pixel : Nat → Nat → Nat → UInt8} (paint : ∀ x y, pixel x y 3 = 0 ∨ pixel x y 3 = 255) :
    SharpAlpha (painted r area pixel) := by
  intro x y (hx : x < r.width) (hy : y < r.height)
  rw [painted, Raster.byteAt_remap hx hy (by rw [isRgba]; decide)]
  split
  · exact paint x y
  · exact sharp x y hx hy

/-- A disposal that suits a surface leaves it sharp. -/
theorem Surface.Sharp.apply (sharp : s.Sharp width height) {d : Disposal}
    (suits : d.Suits width height s) : (d.apply s).Sharp width height := by
  cases suits with
  | keep => exact sharp
  | index area index p turns r =>
      obtain ⟨_, _, _, isGray, wide, tall⟩ := sharp
      exact .flat p turns _ isGray wide tall
  | pixel area pixel whole opaque_ r =>
      obtain _ | ⟨_, _, isRgba, alpha, wide, tall⟩ := sharp
      exact .color opaque_ _ isRgba
        (sharpAlpha_painted isRgba alpha area fun _ _ => whole) wide tall
  | flat area before p turns r =>
      obtain ⟨_, _, _, isGray, wide, tall⟩ := sharp
      exact .flat p turns _ isGray wide tall
  | color area wasOpaque before old isRgba opaque_ r =>
      obtain _ | ⟨_, _, rgba, alpha, wide, tall⟩ := sharp
      refine .color opaque_ _ rgba (sharpAlpha_painted rgba alpha area fun x y => ?_) wide tall
      dsimp only
      split
      case isTrue inside => exact old x y inside.1 inside.2
      case isFalse => exact .inl rfl

theorem sharpAlpha_ofPixels {wide tall : Nat} {p : Nat → Nat → Rgba}
    (sharp : ∀ x y, x < wide → y < tall → (p x y).IsSharp) :
    SharpAlpha (Raster.ofPixels wide tall p) := by
  intro x y (hx : x < wide) (hy : y < tall)
  rw [Raster.byteAt_ofPixels hx hy (by decide)]
  exact sharp x y hx hy

/-- Indices that turn to colours are drawn but for the key. -/
theorem Surface.Sharp.turned (sharp : s.Sharp width height) {key : Option UInt8}
    (turned : s.turned key = some t) : t.Sharp width height := by
  cases sharp with
  | color opaque_ r isRgba alpha wide tall =>
      obtain rfl := Option.some.inj turned
      exact .color opaque_ r isRgba alpha wide tall
  | flat p turns r isGray wide tall =>
      cases turns
      case false =>
        cases p <;> obtain rfl := Option.some.inj turned <;> exact .flat _ _ r isGray wide tall
      case true =>
        cases p with
        | some p =>
            obtain rfl := Option.some.inj turned
            refine .color _ _ rfl (sharpAlpha_ofPixels fun x y _ _ => ?_) wide tall
            by_cases cleared : key = some (r.byteAt x y 0)
            · exact .inl (if_pos cleared)
            · exact .inr (if_neg cleared)
        | none =>
            rw [Surface.turned] at turned
            split_ifs at turned
            obtain rfl := Option.some.inj turned
            exact .color _ _ rfl (sharpAlpha_ofPixels fun _ _ _ _ => .inr rfl) wide tall

/-- A larger surface is index zero or nothing where it is new. -/
theorem Surface.Sharp.resized (sharp : s.Sharp width height) {wide tall : Nat}
    (wider : s.size.1 ≤ wide) (taller : s.size.2 ≤ tall) :
    (s.resized wide tall).Sharp width height := by
  cases sharp with
  | flat p turns r isGray narrow low =>
      exact .flat p turns _ isGray (Nat.le_trans narrow wider) (Nat.le_trans low taller)
  | color opaque_ r isRgba alpha narrow low =>
      refine .color opaque_ _ isRgba (fun x y (hx : x < wide) (hy : y < tall) => ?_)
        (Nat.le_trans narrow wider) (Nat.le_trans low taller)
      rw [Raster.byteAt_remap hx hy (by rw [isRgba]; decide)]
      split
      case isTrue inside => exact alpha x y inside.1 inside.2
      case isFalse => exact .inl rfl

theorem Surface.Sharp.fitted (sharp : s.Sharp width height) (i : Image) :
    (s.fitted i).Sharp width height := by
  rw [Surface.fitted, Surface.sizeFor]
  split
  · exact sharp
  · have grown := sharp.resized (Nat.le_max_left s.size.1 (i.area.left + i.area.width))
      (Nat.le_max_left s.size.2 (i.area.top + i.area.height))
    cases grown_ : s.resized (max s.size.1 (i.area.left + i.area.width))
      (max s.size.2 (i.area.top + i.area.height)) with
    | flat p turns r => rwa [grown_] at grown
    | color opaque_ r =>
        rw [grown_] at grown
        obtain _ | ⟨_, _, isRgba, alpha, wide, tall⟩ := grown
        exact .color _ r isRgba alpha wide tall

/-- A pixel of an image is drawn in full. -/
theorem Surface.Sharp.drawn (sharp : s.Sharp width height) (i : Image)
    (palette : Option Palette) : (s.drawn i palette).Sharp width height := by
  cases sharp with
  | flat p turns r isGray wide tall => exact .flat _ _ _ isGray wide tall
  | color opaque_ r isRgba alpha wide tall =>
      refine .color opaque_ _ rfl (sharpAlpha_ofPixels fun x y hx hy => ?_) wide tall
      split
      · exact .inr rfl
      · exact alpha x y hx hy

/-- Making room and drawing leave indices indices. -/
theorem Surface.drawn_fitted_flat (i : Image) (palette p : Option Palette) (turns : Bool)
    (r : Raster) :
    ∃ q turned indices, ((flat p turns r).fitted i).drawn i palette = .flat q turned indices := by
  rw [fitted]
  split <;> exact ⟨_, _, _, rfl⟩

/-- Making room and drawing leave colours colours. -/
theorem Surface.drawn_fitted_color (i : Image) (palette : Option Palette) (opaque_ : Bool)
    (r : Raster) :
    ∃ solid pixels, ((color opaque_ r).fitted i).drawn i palette = .color solid pixels := by
  rw [fitted]
  split <;> exact ⟨_, _, rfl⟩

/-- The disposal of an image suits the surface that it is drawn on. -/
theorem disposalOf_suits (g : Gif) (method : Nat) (key : Option UInt8)
    (sharp : s.Sharp width height) :
    (disposalOf g i method key (some s)).Suits width height ((s.fitted i).drawn i palette) := by
  have pixel (p : Option Palette) : (fillPixel g p i.clear).IsSharp := by
    cases i.clear
    · exact .inr rfl
    · exact .inl rfl
  unfold disposalOf
  cases sharp with
  | flat p turns r =>
      obtain ⟨q, turned, indices, shown⟩ := Surface.drawn_fitted_flat i palette p turns r
      rw [shown]
      split_ifs
      · exact .keep _
      · exact .index ..
      · exact .flat ..
  | color opaque_ r isRgba alpha =>
      obtain ⟨solid, pixels, shown⟩ := Surface.drawn_fitted_color i palette opaque_ r
      rw [shown]
      split_ifs
      · exact .keep _
      · exact .pixel _ _ (pixel _) _ _
      · exact .color _ _ _ alpha isRgba _ _

/-- The first image lies on a flat surface, which only takes indices. -/
theorem disposalOf_first_suits (g : Gif) (method : Nat) (p : Option Palette) (turns : Bool)
    (r : Raster) : (disposalOf g i method none none).Suits width height (.flat p turns r) := by
  rw [disposalOf]
  split_ifs
  · exact .keep _
  · exact .index ..
  · cases i.clear
    · exact .keep _
    · exact .index ..

end Surfaces

/-! ## Screens -/

/-- A screen that stays sharp whatever comes next. -/
structure Screen.Sharp (screen : Screen) (width height : Nat) : Prop where
  surface : screen.surface.Sharp width height
  disposal : screen.disposal.Suits width height screen.surface

/-- One more image leaves a screen sharp. -/
theorem Screen.Sharp.next {screen next : Screen} (sharp : screen.Sharp width height) (g : Gif)
    {i : Image} (drawn : screen.next g i = some next) : next.Sharp width height := by
  obtain ⟨surface, turned, made⟩ := Option.bind_eq_some_iff.mp drawn
  obtain rfl := Option.some.inj made
  have before := (sharp.surface.apply sharp.disposal).turned turned
  exact ⟨(before.fitted i).drawn i _, disposalOf_suits g _ _ before⟩

/-- A screen shows a sharp frame. -/
theorem Screen.Sharp.frame {screen : Screen} (sharp : screen.Sharp width height) (i : Image) :
    (screen.frame i).Sharp width height := by
  obtain ⟨surface, -⟩ := sharp
  rw [Screen.frame]
  generalize screen.surface = shown at surface
  cases surface with
  | flat p turns r isGray wide tall =>
      cases p with
      | none =>
          refine ⟨wide, tall, fun x y _ _ => Raster.isSharp_of_gray ?_ x y⟩
          exact isGray
      | some p =>
          refine ⟨wide, tall, fun x y _ _ => Raster.isSharp_of_indexed rfl (fun values => ?_) x y⟩
          cases screen.key <;> exact Transparency.noConfusion
  | color opaque_ r isRgba alpha wide tall =>
      cases opaque_
      · refine ⟨wide, tall, fun x y hx hy => ?_⟩
        simpa [Surface.picture, Raster.pixelAt, isRgba, Rgba.IsSharp] using alpha x y hx hy
      · exact ⟨wide, tall, fun x y _ _ => .inr rfl⟩

/-- All frames after a sharp screen are sharp. -/
theorem framesAfter_sharp (g : Gif) {screen : Screen} (sharp : screen.Sharp width height)
    (images : List Image) : ∀ f ∈ (g.framesAfter screen images).1, f.Sharp width height := by
  induction images generalizing screen with
  | nil => simp [framesAfter]
  | cons i rest ih =>
      rw [framesAfter]
      split
      case isTrue => simp
      case isFalse =>
        cases drawn : screen.next g i with
        | none => simp
        | some next =>
            have later := sharp.next g drawn
            dsimp only
            split
            · exact List.forall_mem_cons.mpr ⟨later.frame i, ih later⟩
            · simp

/-- The frames of a file are sharp and no smaller than the first. -/
theorem container?_sharp {g : Gif} {c : Container} (opened : g.container? = some c)
    {first : Frame} {rest : List Frame} (frames : c.frames = first :: rest) :
    ∀ f ∈ c.frames, f.Sharp first.picture.width first.picture.height := by
  rw [container?] at opened
  cases images : g.images with
  | nil =>
      simp only [images, Option.map_eq_some_iff] at opened
      obtain ⟨damage, -, rfl⟩ := opened
      cases frames
  | cons i later =>
      simp only [images, Option.some.injEq] at opened
      subst opened
      obtain ⟨rfl, rfl⟩ := List.cons.inj frames
      have sharp : (g.firstScreen i).Sharp ((g.firstScreen i).frame i).picture.width
          ((g.firstScreen i).frame i).picture.height := by
        refine ⟨?_, disposalOf_first_suits ..⟩
        rw [Screen.frame, firstScreen]
        cases g.paletteFor i <;> exact .flat _ _ _ rfl le_rfl le_rfl
      exact List.forall_mem_cons.mpr ⟨sharp.frame i, framesAfter_sharp g sharp later⟩

end Gif

end Darkroom
