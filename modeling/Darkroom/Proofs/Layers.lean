/-
# Darkroom.Proofs.Layers -- the last frame to draw a place is seen there

A pixel that is drawn in full replaces what is below it, and one that is not drawn
leaves it.  So a frame of such pixels changes a canvas exactly where it draws
(`pixelAt_drawn`), whatever the size of the frame.  What is seen at a place is the
pixel of the last frame that drew there, or nothing: `Seen`.  One more frame keeps
that up (`Seen.next`), so every canvas of a file shows what is `Seen`
(`canvases_show_last`).

A frame may be larger than the canvas.  What lies outside has no part in it
(`canvasesFrom_congr`).
-/
import Darkroom.Proofs.Frames
import Darkroom.Proofs.Screens

namespace Darkroom

set_option autoImplicit false

/-- A pixel that is drawn in full or not at all is not blended. -/
theorem Rgba.above_of_sharp {top : Rgba} (sharp : top.IsSharp) (below : Rgba) :
    top.above below = if top.alpha = 0 then below else top := by
  rcases sharp with clear | solid
  · rw [above_of_clear clear, if_pos clear]
  · rw [above_of_solid solid, if_neg (by rw [solid]; decide)]

namespace Frame

/-- A frame reaches a place. -/
abbrev Covers (f : Frame) (x y : Nat) : Prop := x < f.picture.width ∧ y < f.picture.height

/-- A frame draws a place: it covers it with an opaque pixel. -/
def Draws (f : Frame) (x y : Nat) : Prop := f.Covers x y ∧ (f.picture.pixelAt x y).alpha = 255

instance (f : Frame) (x y : Nat) : Decidable (f.Draws x y) := inferInstanceAs (Decidable (_ ∧ _))

/-- Every pixel of a frame is drawn in full or not at all. -/
def Crisp (f : Frame) : Prop :=
  ∀ x < f.picture.width, ∀ y < f.picture.height, (f.picture.pixelAt x y).IsSharp

/-- Two frames are the same as far as a canvas goes. -/
def AgreesWithin (width height : Nat) (f g : Frame) : Prop :=
  ∀ x < width, ∀ y < height, (f.Covers x y ↔ g.Covers x y) ∧
    (f.Covers x y → f.picture.pixelAt x y = g.picture.pixelAt x y)

end Frame

namespace Animation

variable {canvas shown : Raster} {f g : Frame} {frames others : List Frame} {p q : Rgba}
  {width height k n x y : Nat}

/-! ## One frame -/

theorem pixelAt_emptyCanvas (hx : x < width) (hy : y < height) :
    (emptyCanvas width height).pixelAt x y = .transparent :=
  Raster.pixelAt_ofPixels hx hy

/-- A frame without half-drawn pixels changes a canvas exactly where it draws. -/
theorem pixelAt_drawn (crisp : f.Crisp) (hx : x < canvas.width) (hy : y < canvas.height) :
    (canvas.overlaid f.picture).pixelAt x y =
      if f.Draws x y then f.picture.pixelAt x y else canvas.pixelAt x y := by
  rw [Raster.pixelAt_overlaid hx hy]
  by_cases covers : f.Covers x y
  case neg =>
    have away : ¬f.Draws x y := fun draws => covers draws.1
    rw [if_neg covers, if_neg away]
  case pos =>
    have sharp := crisp x covers.1 y covers.2
    rw [if_pos covers, Rgba.above_of_sharp sharp]
    rcases sharp with clear | solid
    · have undrawn : ¬f.Draws x y := by
        rintro ⟨-, solid⟩
        rw [clear] at solid
        exact absurd solid (by decide)
      rw [if_pos clear, if_neg undrawn]
    · have drawn : f.Draws x y := ⟨covers, solid⟩
      rw [if_pos drawn, if_neg (by rw [solid]; decide)]

theorem overlaid_congr (agree : f.AgreesWithin canvas.width canvas.height g) :
    canvas.overlaid g.picture = canvas.overlaid f.picture := by
  apply Raster.ofPixels_congr
  intro x y hx hy
  obtain ⟨reach, same⟩ := agree x hx y hy
  by_cases covers : f.Covers x y
  · rw [if_pos (reach.mp covers), if_pos covers, same covers]
  · rw [if_neg (covers.comp reach.mpr), if_neg covers]

/-- What lies outside of a canvas has no part in it. -/
theorem canvasesFrom_congr (agree : List.Forall₂ (Frame.AgreesWithin width height) frames others)
    (wide : canvas.width = width) (tall : canvas.height = height) :
    canvasesFrom canvas others = canvasesFrom canvas frames := by
  induction agree generalizing canvas with
  | nil => rfl
  | @cons f g frames others here _ ih =>
      subst wide tall
      have later : canvasesFrom (canvas.overlaid f.picture) others =
          canvasesFrom (canvas.overlaid f.picture) frames := ih rfl rfl
      rw [canvasesFrom, canvasesFrom, overlaid_congr here, later]

/-! ## What is seen -/

/-- What is seen at a place after the first `n` frames: the pixel of the last one that
draws there, or nothing where none does. -/
inductive Seen (frames : List Frame) (n x y : Nat) : Rgba → Prop
  | drawn {j : Nat} {f : Frame} (before : j < n) (found : frames[j]? = some f)
      (draws : f.Draws x y)
      (last : ∀ i g, j < i → i < n → frames[i]? = some g → ¬g.Draws x y) :
      Seen frames n x y (f.picture.pixelAt x y)
  | bare (nowhere : ∀ i g, i < n → frames[i]? = some g → ¬g.Draws x y) :
      Seen frames n x y .transparent

/-- One thing is seen at a place. -/
theorem Seen.unique (one : Seen frames n x y p) (two : Seen frames n x y q) : p = q := by
  cases one with
  | @drawn i f before found draws last =>
      cases two with
      | @drawn j g before' found' draws' last' =>
          rcases Nat.lt_trichotomy i j with earlier | rfl | later
          · exact absurd draws' (last j g earlier before' found')
          · rw [Option.some.inj (found.symm.trans found')]
          · exact absurd draws (last' i f later before found)
      | bare nowhere => exact absurd draws (nowhere i f before found)
  | bare nowhere =>
      cases two with
      | drawn before found draws last => exact absurd draws (nowhere _ _ before found)
      | bare => rfl

theorem Seen.nothing (frames : List Frame) (x y : Nat) : Seen frames 0 x y .transparent :=
  .bare fun i _ before => absurd before (Nat.not_lt_zero i)

/-- One more frame is seen where it draws, and elsewhere what was seen before. -/
theorem Seen.next (seen : Seen frames n x y p) (found : frames[n]? = some f) :
    Seen frames (n + 1) x y (if f.Draws x y then f.picture.pixelAt x y else p) := by
  by_cases draws : f.Draws x y
  case pos =>
    rw [if_pos draws]
    exact .drawn (Nat.lt_succ_self n) found draws fun i g later upTo => by omega
  case neg =>
    rw [if_neg draws]
    have quiet (i : Nat) (g : Frame) (upTo : i < n + 1) (there : frames[i]? = some g)
        (earlier : i < n → ¬g.Draws x y) : ¬g.Draws x y := by
      rcases Nat.lt_succ_iff_lt_or_eq.mp upTo with before | rfl
      · exact earlier before
      · rwa [Option.some.inj (there.symm.trans found)]
    cases seen with
    | drawn before found' draws' last =>
        exact .drawn (Nat.lt_succ_of_lt before) found' draws' fun i g later upTo there =>
          quiet i g upTo there fun before => last i g later before there
    | bare nowhere =>
        exact .bare fun i g upTo there =>
          quiet i g upTo there fun before => nowhere i g before there

/-! ## All frames -/

theorem getElem?_canvasesFrom_zero (reached : (canvasesFrom canvas frames)[0]? = some shown) :
    ∃ f, frames[0]? = some f ∧ shown = canvas.overlaid f.picture := by
  cases frames with
  | nil => cases reached
  | cons f rest => exact ⟨f, rfl, (Option.some.inj reached).symm⟩

/-- Every canvas but the first is a frame laid over the canvas before it. -/
theorem getElem?_canvasesFrom_succ (reached : (canvasesFrom canvas frames)[k + 1]? = some shown) :
    ∃ before f, (canvasesFrom canvas frames)[k]? = some before ∧ frames[k + 1]? = some f ∧
      shown = before.overlaid f.picture := by
  induction frames generalizing canvas k with
  | nil => cases reached
  | cons f rest ih =>
      rw [canvasesFrom, List.getElem?_cons_succ] at reached
      cases k with
      | zero =>
          obtain ⟨g, found, made⟩ := getElem?_canvasesFrom_zero reached
          exact ⟨canvas.overlaid f.picture, g, rfl, found, made⟩
      | succ k =>
          obtain ⟨before, g, there, found, made⟩ := ih reached
          exact ⟨before, g, there, found, made⟩

/-- Every canvas shows what is seen after its frame. -/
theorem seen_canvases (crisp : ∀ f ∈ frames, f.Crisp) (hx : x < width) (hy : y < height)
    (reached : (canvases width height frames)[k]? = some shown) :
    Seen frames (k + 1) x y (shown.pixelAt x y) := by
  induction k generalizing shown with
  | zero =>
      obtain ⟨f, found, rfl⟩ := getElem?_canvasesFrom_zero reached
      have here : f.Crisp := crisp f (List.mem_of_getElem? found)
      rw [pixelAt_drawn here hx hy, pixelAt_emptyCanvas hx hy]
      exact (Seen.nothing frames x y).next found
  | succ k ih =>
      obtain ⟨before, f, there, found, rfl⟩ := getElem?_canvasesFrom_succ reached
      have here : f.Crisp := crisp f (List.mem_of_getElem? found)
      obtain ⟨-, wide, tall⟩ := canvasesFrom_size _ _ before (List.mem_of_getElem? there)
      rw [pixelAt_drawn here (wide.symm ▸ hx) (tall.symm ▸ hy)]
      exact (ih there).next found

/-- The last opaque pixel wins.  There is a canvas for every frame, of the size of the
first one, and each place of it shows the pixel of the last frame so far that draws
there, or nothing where none does.  What a frame has outside of the canvas makes no
difference. -/
theorem canvases_show_last {first : Frame} {rest : List Frame}
    (crisp : ∀ f ∈ first :: rest, f.Crisp) :
    let width := first.picture.width
    let height := first.picture.height
    let shown := canvases width height (first :: rest)
    shown.length = (first :: rest).length ∧
      (∀ k canvas, shown[k]? = some canvas →
        (canvas.width = width ∧ canvas.height = height) ∧
          ∀ x < width, ∀ y < height, ∀ p,
            canvas.pixelAt x y = p ↔ Seen (first :: rest) (k + 1) x y p) ∧
        ∀ others, List.Forall₂ (Frame.AgreesWithin width height) (first :: rest) others →
          canvases width height others = shown := by
  intro width height shown
  refine ⟨length_canvasesFrom _ _, fun k canvas reached => ⟨?_, fun x hx y hy p => ?_⟩,
    fun others agree => canvasesFrom_congr agree rfl rfl⟩
  · exact (canvasesFrom_size _ _ canvas (List.mem_of_getElem? reached)).2
  · have seen := seen_canvases crisp hx hy reached
    constructor
    · rintro rfl
      exact seen
    · exact seen.unique

/-! ## Patches -/

/-- A frame of one colour. -/
def patch (width height : Nat) (color : Rgba) : Frame :=
  ⟨.ofPixels width height fun _ _ => color, {}⟩

theorem pixelAt_patch (color : Rgba) (hx : x < width) (hy : y < height) :
    (patch width height color).picture.pixelAt x y = color :=
  Raster.pixelAt_ofPixels hx hy

theorem crisp_patch {color : Rgba} (sharp : color.IsSharp) : (patch width height color).Crisp := by
  intro x (hx : x < width) y (hy : y < height)
  rwa [pixelAt_patch color hx hy]

/-- A red square, a green column that is longer than the square, and a blue bar that is
wider and not drawn at all. -/
def patches : List Frame :=
  [patch 2 2 ⟨255, 0, 0, 255⟩, patch 1 3 ⟨0, 255, 0, 255⟩, patch 3 1 ⟨0, 0, 255, 0⟩]

theorem crisp_patches : ∀ f ∈ patches, f.Crisp := by
  simp only [patches, List.forall_mem_cons]
  exact ⟨crisp_patch (.inr rfl), crisp_patch (.inr rfl), crisp_patch (.inl rfl),
    List.forall_mem_nil _⟩

/-- In the end the column is seen on the left and the square on the right. -/
theorem patches_seen : ∃ canvas, (canvases 2 2 patches)[2]? = some canvas ∧
    canvas.pixelAt 0 1 = ⟨0, 255, 0, 255⟩ ∧ canvas.pixelAt 1 0 = ⟨255, 0, 0, 255⟩ := by
  obtain ⟨-, shown, -⟩ := canvases_show_last crisp_patches
  obtain ⟨canvas, reached⟩ : ∃ canvas, (canvases 2 2 patches)[2]? = some canvas := ⟨_, rfl⟩
  obtain ⟨-, seen⟩ := shown 2 canvas reached
  refine ⟨canvas, reached, (seen 0 (by decide) 1 (by decide) _).mpr ?_,
    (seen 1 (by decide) 0 (by decide) _).mpr ?_⟩
  · rw [← pixelAt_patch ⟨0, 255, 0, 255⟩ Nat.zero_lt_one (show 1 < 3 by decide)]
    refine .drawn (show 1 < 3 by decide) rfl (by decide +kernel) fun i g later upTo there => ?_
    obtain rfl : i = 2 := by omega
    obtain rfl := Option.some.inj there
    decide +kernel
  · rw [← pixelAt_patch ⟨255, 0, 0, 255⟩ Nat.one_lt_two Nat.two_pos]
    refine .drawn (show 0 < 3 by decide) rfl (by decide +kernel) fun i g later upTo there => ?_
    obtain rfl | rfl : i = 1 ∨ i = 2 := by omega
    all_goals
      obtain rfl := Option.some.inj there
      decide +kernel

end Animation

end Darkroom
