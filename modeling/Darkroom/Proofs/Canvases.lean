/-
# Darkroom.Proofs.Canvases -- what the canvases of a GIF file show

A frame of a GIF file is what the file displays at its time: the disposals of the
frames before it have been carried out.  The canvases lay the frames over each
other once more, and nothing is taken off a canvas again.  A place on it shows
the latest frame so far that has something to show there
(`pixelAt_canvasesFrom`).

So the canvases are what the file displays as long as no frame clears a pixel of
the one before it, and no longer (`canvases_display_iff`).  A pixel that is
cleared stays on the canvases: `blink` is a file of one pixel that is red and then
nothing, and its second canvas is red.
-/
import Darkroom.Proofs.Layers
import Mathlib.Data.List.Chain
import Mathlib.Data.List.Forall2

namespace Darkroom

set_option autoImplicit false

namespace Rgba

/-- Two pixels look the same; the colour of one that is not drawn does not matter. -/
def Alike (p q : Rgba) : Prop := p = q ∨ p.alpha = 0 ∧ q.alpha = 0

instance (p q : Rgba) : Decidable (p.Alike q) := inferInstanceAs (Decidable (_ ∨ _))

/-- The last pixel that is drawn of those laid over each other. -/
def topmost (below : Rgba) (pixels : List Rgba) : Rgba :=
  (pixels.filter (·.alpha ≠ 0)).getLastD below

theorem topmost_cons (below top : Rgba) (pixels : List Rgba) :
    topmost below (top :: pixels) = topmost (if top.alpha = 0 then below else top) pixels := by
  rw [topmost, topmost, List.filter_cons]
  by_cases clear : top.alpha = 0
  · rw [if_neg (by simp [clear]), if_pos clear]
  · rw [if_pos (by simp [clear]), if_neg clear, List.getLastD_cons]

end Rgba

/-- A canvas looks like a picture, as far as the canvas goes. -/
def Raster.Displays (canvas picture : Raster) : Prop :=
  ∀ x y, x < canvas.width → y < canvas.height →
    (canvas.pixelAt x y).Alike (picture.pixelAt x y)

/-- A frame clears no pixel of the one before it. -/
def Frame.Keeps (width height : Nat) (before f : Frame) : Prop :=
  ∀ x y, x < width → y < height →
    (f.picture.pixelAt x y).alpha = 0 → (before.picture.pixelAt x y).alpha = 0

namespace Animation

variable {canvas : Raster} {frames : List Frame} {f before : Frame} {width height : Nat}

/-- What the latest of some frames with something to show at a place shows there. -/
def lastDrawn (frames : List Frame) (x y : Nat) : Rgba :=
  Rgba.topmost .transparent (frames.map fun f => f.picture.pixelAt x y)

theorem pixelAt_overlaid (sharp : f.Sharp width height) (wide : canvas.width = width)
    (tall : canvas.height = height) {x y : Nat} (hx : x < width) (hy : y < height) :
    (canvas.overlaid f.picture).pixelAt x y =
      if (f.picture.pixelAt x y).alpha = 0 then canvas.pixelAt x y else f.picture.pixelAt x y := by
  have inside : x < f.picture.width ∧ y < f.picture.height :=
    ⟨Nat.lt_of_lt_of_le hx sharp.width, Nat.lt_of_lt_of_le hy sharp.height⟩
  subst wide tall
  rw [Raster.pixelAt_overlaid hx hy, if_pos inside,
    Rgba.above_of_sharp (sharp.pixel x y inside.1 inside.2)]

/-- A canvas shows the latest frame so far at every place, down to the canvas
that they started with. -/
theorem pixelAt_canvasesFrom (sharp : ∀ f ∈ frames, f.Sharp width height) {k : Nat}
    {next : Raster} (reached : (canvasesFrom canvas frames)[k]? = some next)
    (wide : canvas.width = width) (tall : canvas.height = height) {x y : Nat}
    (hx : x < width) (hy : y < height) :
    next.pixelAt x y = Rgba.topmost (canvas.pixelAt x y)
      ((frames.take (k + 1)).map fun f => f.picture.pixelAt x y) := by
  induction frames generalizing canvas k with
  | nil => cases reached
  | cons f rest ih =>
      obtain ⟨here, later⟩ := List.forall_mem_cons.mp sharp
      rw [List.take_succ_cons, List.map_cons, Rgba.topmost_cons,
        ← pixelAt_overlaid here wide tall hx hy]
      cases k with
      | zero =>
          obtain rfl := Option.some.inj reached
          rfl
      | succ k =>
          rw [canvasesFrom, List.getElem?_cons_succ] at reached
          exact ih later reached wide tall

/-- Over a canvas that shows a frame, the next one shows exactly where it clears
no pixel. -/
theorem displays_overlaid_iff (sharp : f.Sharp width height)
    (shows : canvas.Displays before.picture) (wide : canvas.width = width)
    (tall : canvas.height = height) :
    (canvas.overlaid f.picture).Displays f.picture ↔ before.Keeps width height f := by
  subst wide tall
  refine forall₂_congr fun x y => forall₂_congr fun hx hy => ?_
  rw [pixelAt_overlaid sharp rfl rfl hx hy]
  by_cases clear : (f.picture.pixelAt x y).alpha = 0
  case neg => simp [clear, Rgba.Alike]
  case pos =>
    simp only [clear, if_true, Rgba.Alike, and_true, forall_const]
    rcases shows x y hx hy with same | ⟨below, under⟩
    · rw [same]
      exact ⟨fun alike => alike.elim (fun same => same ▸ clear) id, .inr⟩
    · exact ⟨fun _ => under, fun _ => .inr below⟩

/-- From a canvas that shows a frame on, the canvases show theirs exactly where
no frame clears a pixel of the one before it. -/
theorem displays_canvasesFrom_iff (sharp : ∀ f ∈ frames, f.Sharp width height)
    (shows : canvas.Displays before.picture) (wide : canvas.width = width)
    (tall : canvas.height = height) :
    List.Forall₂ (fun canvas f => canvas.Displays f.picture) (canvasesFrom canvas frames) frames ↔
      (before :: frames).IsChain (Frame.Keeps width height) := by
  induction frames generalizing canvas before with
  | nil => simp [canvasesFrom]
  | cons f rest ih =>
      obtain ⟨here, later⟩ := List.forall_mem_cons.mp sharp
      have next := displays_overlaid_iff here shows wide tall
      rw [canvasesFrom, List.forall₂_cons, List.isChain_cons_cons, next]
      exact and_congr_right fun keeps => ih later (next.mpr keeps) wide tall

/-- The first frame is all that its canvas shows. -/
theorem displays_first (sharp : f.Sharp width height) :
    ((emptyCanvas width height).overlaid f.picture).Displays f.picture := by
  intro x y (hx : x < width) (hy : y < height)
  rw [pixelAt_overlaid sharp rfl rfl hx hy, pixelAt_emptyCanvas hx hy]
  split
  case isTrue clear => exact .inr ⟨rfl, clear⟩
  case isFalse => exact .inl rfl

end Animation

namespace Gif

open Animation

variable {g : Gif} {c : Container} {first : Frame} {rest : List Frame}

/-- What the canvases of a GIF file show: each the latest of its frames at every
place, which is what the file displays exactly if no frame clears a pixel of the
one before it. -/
theorem canvases_display_iff (opened : g.container? = some c) (frames : c.frames = first :: rest) :
    (∀ k canvas, (canvases first.picture.width first.picture.height c.frames)[k]? = some canvas →
      ∀ x y, x < first.picture.width → y < first.picture.height →
        canvas.pixelAt x y = lastDrawn (c.frames.take (k + 1)) x y) ∧
    (List.Forall₂ (fun canvas f => canvas.Displays f.picture)
        (canvases first.picture.width first.picture.height c.frames) c.frames ↔
      c.frames.IsChain (Frame.Keeps first.picture.width first.picture.height)) := by
  have sharp := container?_sharp opened frames
  constructor
  · intro k canvas reached x y hx hy
    rw [pixelAt_canvasesFrom sharp reached rfl rfl hx hy, pixelAt_emptyCanvas hx hy, lastDrawn]
  · rw [frames] at sharp ⊢
    obtain ⟨here, later⟩ := List.forall_mem_cons.mp sharp
    have shown := displays_first here
    rw [canvases, canvasesFrom, List.forall₂_cons, and_iff_right shown]
    exact displays_canvasesFrom_iff later shown rfl rfl

/-! ## A file that blinks -/

/-- A file of one pixel that is red for a tenth of a second, is cleared, and then
is not drawn on. -/
def blink : Gif where
  width := 1
  height := 1
  palette := some ⟨#[(255, 0, 0), (0, 255, 0)]⟩
  background := 0
  loop := none
  images :=
    [⟨⟨0, 0, 1, 1⟩, #[0], none, some ⟨2, 10, some 1⟩⟩,
      ⟨⟨0, 0, 1, 1⟩, #[1], none, some ⟨0, 20, some 1⟩⟩]
  damage := none

/-- The second canvas of the file is red where the file shows nothing. -/
theorem blink_lingers : ∃ (c : Container) (first later : Frame) (canvas drawn : Raster),
    blink.container? = some c ∧ c.frames = [first, later] ∧
      canvases first.picture.width first.picture.height c.frames = [canvas, drawn] ∧
        drawn.pixelAt 0 0 = ⟨255, 0, 0, 255⟩ ∧ (later.picture.pixelAt 0 0).alpha = 0 ∧
          ¬drawn.Displays later.picture := by
  refine ⟨_, _, _, _, _, rfl, rfl, rfl, by decide +kernel, by decide +kernel, fun shows => ?_⟩
  have alike := shows 0 0 (by decide +kernel) (by decide +kernel)
  revert alike
  decide +kernel

/-- Red is the latest that there was to show. -/
theorem blink_latest : ∃ (c : Container) (first later : Frame),
    blink.container? = some c ∧ c.frames = [first, later] ∧
      ∀ canvas, (canvases first.picture.width first.picture.height c.frames)[1]? = some canvas →
        canvas.pixelAt 0 0 = ⟨255, 0, 0, 255⟩ := by
  refine ⟨_, _, _, rfl, rfl, fun canvas reached => ?_⟩
  obtain ⟨latest, -⟩ := canvases_display_iff (g := blink) rfl rfl
  exact (latest 1 canvas reached 0 0 (by decide +kernel) (by decide +kernel)).trans
    (by decide +kernel)

end Gif

end Darkroom
