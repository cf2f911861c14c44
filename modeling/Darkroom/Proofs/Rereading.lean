/-
# Darkroom.Proofs.Rereading -- a written animation is given back

Every image of an animation fills the screen with palette colours, so nothing of
what the screen showed before is left, whatever was done to it in between.  What
remains of the past is the disposal in force, which an image without one of its
own keeps.  Where the disposals are as a reader reports them, `Reported`, the file
of a settled animation gives it back: `container_readsBack`.
-/
import Darkroom.Proofs.Turning

namespace Darkroom

set_option autoImplicit false

/-! ## Disposals -/

namespace Shot

/-- The disposals of shots as a reader reports them when `method` is in force:
three bits each, and none is reported only while none is in force. -/
def Reported : Nat → List Shot → Prop
  | _, [] => True
  | method, s :: rest => ∃ next : Nat, s.timing.disposal = next ∧ next < 8 ∧
      (next = 0 → method = 0) ∧ Reported next rest

/-- Nothing but the times has a part in it. -/
theorem reported_map {method : Nat} {shots : List Shot} {f : Shot → Shot}
    (same : ∀ s, (f s).timing = s.timing) (reported : Reported method shots) :
    Reported method (shots.map f) := by
  induction shots generalizing method with
  | nil => trivial
  | cons s rest ih =>
      obtain ⟨next, disposal, small, kept, reported⟩ := reported
      exact ⟨next, (congrArg Timing.disposal (same s)).trans disposal, small, kept, ih reported⟩

end Shot

namespace Gif

/-! ## The screen -/

/-- A surface of a size that shows an opaque picture. -/
inductive Surface.Plain (width height : Nat) : Surface → Prop
  | flat (p : Palette) (r : Raster) (sameWidth : r.width = width) (sameHeight : r.height = height) :
      Plain width height (.flat (some p) true r)
  | color (r : Raster) (sameWidth : r.width = width) (sameHeight : r.height = height) :
      Plain width height (.color true r)

variable {width height : Nat}

theorem Surface.Plain.size {s : Surface} (plain : s.Plain width height) :
    s.size = (width, height) := by
  obtain ⟨p, r, rfl, rfl⟩ | ⟨r, rfl, rfl⟩ := plain <;> rfl

/-- Whatever is done to an image that goes, the surface stays plain. -/
theorem Surface.Plain.apply {s : Surface} (plain : s.Plain width height) (d : Disposal) :
    (d.apply s).Plain width height := by
  cases plain with
  | flat p r sameWidth sameHeight =>
      cases d
      case keep => exact .flat p r sameWidth sameHeight
      case fillIndex | fillColor | restore => exact .flat p _ sameWidth sameHeight
  | color r sameWidth sameHeight =>
      cases d
      case keep => exact .color r sameWidth sameHeight
      case fillIndex | fillColor | restore => exact .color _ sameWidth sameHeight

/-- With the next image coming a plain surface is in colours. -/
theorem Surface.Plain.turned {s : Surface} (plain : s.Plain width height) :
    ∃ r, s.turned none = some (.color true r) ∧ r.width = width ∧ r.height = height := by
  cases plain with
  | flat p r sameWidth sameHeight => exact ⟨_, rfl, sameWidth, sameHeight⟩
  | color r sameWidth sameHeight => exact ⟨r, rfl, sameWidth, sameHeight⟩

/-! ## Images that fill the screen -/

/-- An image in the fixed palette that fills a screen and leaves nothing out. -/
structure Image.Fills (i : Image) (width height : Nat) : Prop where
  area : i.area = ⟨0, 0, width, height⟩
  palette : i.palette = some .fixed
  clear : i.clear = none

theorem Image.Fills.holds {i : Image} (fills : i.Fills width height) {x y : Nat} (hx : x < width)
    (hy : y < height) : i.area.holds x y = true := by
  simp [Area.holds, fills.area, hx, hy]

/-- A screen of the size of the image has room for it. -/
theorem Image.Fills.sizeFor {i : Image} (fills : i.Fills width height) {s : Surface}
    (size : s.size = (width, height)) : s.sizeFor i = s.size := by
  simp [Surface.sizeFor, fills.area, size]

/-- The fixed palette matters. -/
theorem paletteFor_of_fills (g : Gif) {i : Image} (fills : i.Fills width height) :
    g.paletteFor i = some .fixed := by
  have matters : isGrayRamp .fixed = false := by decide +kernel
  simp [paletteFor, fills.palette, needed, matters]

/-- A screen with an opaque picture on it and nothing left out. -/
structure Screen.Clean (screen : Screen) (width height method : Nat) : Prop where
  plain : screen.surface.Plain width height
  key : screen.key = none
  method : screen.method = method

/-- A clean screen has no need to grow. -/
theorem Screen.Clean.roomy {screen : Screen} {i : Image} {method : Nat}
    (clean : screen.Clean width height method) (fills : i.Fills width height) :
    screen.surface.outgrows i = false := by
  simp [Surface.outgrows, fills.sizeFor clean.plain.size]

/-- The colours of an image. -/
structure Surface.ShowsImage (s : Surface) (i : Image) (r : Raster)
    (width height : Nat) : Prop where
  surface : s = .color true r
  sameWidth : r.width = width
  sameHeight : r.height = height
  byte : ∀ x y, x < width → y < height → ∀ c < 3,
    r.byteAt x y c = (Rgba.ofColor (Palette.fixed.color (i.indexAt x y)) 255).channel c

/-- An image that fills the screen leaves nothing of what was there. -/
theorem drawn_of_fills (g : Gif) {i : Image} (fills : i.Fills width height) {before : Raster}
    (sameWidth : before.width = width) (sameHeight : before.height = height) :
    ∃ r, (((Surface.color true before).fitted i).drawn i (g.paletteFor i)).ShowsImage i r
      width height := by
  have fitted : (Surface.color true before).fitted i = .color true before := by
    rw [Surface.fitted, if_pos (fills.sizeFor (by rw [Surface.size, sameWidth, sameHeight]))]
  rw [fitted, paletteFor_of_fills g fills]
  refine ⟨_, rfl, sameWidth, sameHeight, fun x y hx hy c hc => ?_⟩
  have shown : (i.area.holds x y && i.clear != some (i.indexAt x y)) = true := by
    rw [fills.holds hx hy, fills.clear]
    rfl
  rw [Raster.byteAt_ofPixels (sameWidth ▸ hx) (sameHeight ▸ hy) (Nat.lt_succ_of_lt hc),
    if_pos shown]
  rfl

theorem next_of_fills (g : Gif) {screen : Screen} {i : Image} {method : Nat}
    (clean : screen.Clean width height method) (fills : i.Fills width height) :
    ∃ next r, screen.next g i = some next ∧ next.surface.ShowsImage i r width height ∧
      next.Clean width height (methodAfter method i) := by
  obtain ⟨plain, key, rfl⟩ := clean
  obtain ⟨before, turned, sameWidth, sameHeight⟩ := (plain.apply screen.disposal).turned
  obtain ⟨r, shows_⟩ := drawn_of_fills g fills sameWidth sameHeight
  refine ⟨_, r, by rw [Screen.next, key, turned]; rfl, shows_, ?_, rfl, rfl⟩
  rw [shows_.surface]
  exact .color r shows_.sameWidth shows_.sameHeight

/-- The first image lies flat on the screen. -/
theorem firstScreen_of_fills (g : Gif) {i : Image} (fills : i.Fills width height)
    (screenWidth : g.width = width) (screenHeight : g.height = height) :
    (g.firstScreen i).Clean width height (methodAfter 0 i) ∧
      ∃ r, (g.firstScreen i).surface = .flat (some .fixed) true r ∧ r.width = width ∧
        r.height = height ∧ ∀ x y, x < width → y < height → r.byteAt x y 0 = i.indexAt x y := by
  have across : max g.width (i.area.left + i.area.width) = width := by
    rw [screenWidth, fills.area]
    simp
  have down : max g.height (i.area.top + i.area.height) = height := by
    rw [screenHeight, fills.area]
    simp
  have surface : (g.firstScreen i).surface = .flat (some .fixed) true
      (painted (Raster.filled .gray width height fun _ => i.clear.getD 0) i.area
        fun x y _ => i.indexAt x y) := by
    rw [firstScreen, across, down, paletteFor_of_fills g fills]
    rfl
  refine ⟨⟨?_, fills.clear, rfl⟩, _, surface, rfl, rfl, fun x y hx hy => ?_⟩
  · rw [surface]
    exact .flat _ _ rfl rfl
  · have inside : 0 < Mode.gray.bytes := Mode.bytes_pos .gray
    rw [painted]
    refine Eq.trans (Raster.byteAt_remap ?_ ?_ ?_) (if_pos (fills.holds hx hy)) <;> assumption

end Gif

/-! ## Shots -/

namespace Encoding

theorem checkedField_eq_ok {n : Int} :
    checkedField n = .ok () ↔ 0 ≤ n ∧ n ≤ (largestField : Int) := by
  unfold checkedField
  split <;> simp_all

variable {s : Shot} {width height : Nat}

/-- A shot that fills its animation, with a delay that can be written. -/
structure Writable (s : Shot) (width height : Nat) : Prop where
  fixed : s.picture.IsFixed
  width : s.picture.width = width
  height : s.picture.height = height
  delay : 0 ≤ Encoding.delay s.timing

theorem gifImage_fills (writable : Writable s width height) :
    (gifImage s).Fills width height := by
  have same : indexed s.picture = s.picture := if_pos writable.fixed.mode
  refine ⟨?_, ?_, ?_⟩
  · rw [gifImage, same, writable.width, writable.height]
  · rw [gifImage, same, writable.fixed.palette]
  · rw [gifImage, Gif.Image.clear]
    split <;> rfl

theorem indexAt_gifImage (writable : Writable s width height) (x y : Nat) :
    (gifImage s).indexAt x y = s.picture.byteAt x y 0 := by
  have same : indexed s.picture = s.picture := if_pos writable.fixed.mode
  rw [gifImage, Gif.Image.indexAt, same, Raster.byteAt, writable.fixed.mode]
  simp [Mode.bytes]

theorem delay_gifImage (writable : Writable s width height) :
    ((((gifImage s).control.map (·.delay)).getD 0 * 10 : Nat) : Int) = 10 * delay s.timing := by
  have nonneg := writable.delay
  rw [gifImage]
  split
  case isTrue nothing =>
    have zero : delay s.timing = 0 := by omega
    rw [zero]
    rfl
  case isFalse =>
    rw [Option.map_some, Option.getD_some, Nat.cast_mul, Int.toNat_of_nonneg nonneg, mul_comm]
    rfl

theorem methodAfter_gifImage {method next : Nat} (disposal : s.timing.disposal = next)
    (small : next < 8) (kept : next = 0 → method = 0) :
    Gif.methodAfter method (gifImage s) = next := by
  have reduced : (s.timing.disposal % 8).toNat = next := by omega
  rw [gifImage, Gif.methodAfter, reduced]
  by_cases nothing : (delay s.timing).toNat = 0 ∧ next = 0
  · rw [if_pos nothing]
    exact (kept nothing.2).trans nothing.2.symm
  · rw [if_neg nothing]
    by_cases none_ : next = 0
    · exact (if_pos none_).trans ((kept none_).trans none_.symm)
    · exact if_neg none_

/-- The first frame gives back its shot. -/
theorem firstFrame_givesBack (g : Gif) (writable : Writable s width height)
    (screenWidth : g.width = width) (screenHeight : g.height = height) {next : Nat}
    (disposal : s.timing.disposal = next) (small : next < 8) :
    (g.firstScreen (gifImage s)).Clean width height next ∧
      ((g.firstScreen (gifImage s)).frame (gifImage s)).GivesBack s := by
  obtain ⟨clean, r, surface, sameWidth, sameHeight, index⟩ :=
    Gif.firstScreen_of_fills g (gifImage_fills writable) screenWidth screenHeight
  rw [methodAfter_gifImage disposal small fun _ => rfl] at clean
  have picture : ((g.firstScreen (gifImage s)).frame (gifImage s)).picture = s.picture := by
    rw [Gif.Screen.frame, surface, clean.key]
    refine Raster.ext_bytes writable.fixed.mode.symm (sameWidth.trans writable.width.symm)
      (sameHeight.trans writable.height.symm) writable.fixed.palette.symm
      writable.fixed.transparency.symm ?_
    intro x y c (hx : x < r.width) (hy : y < r.height) (hc : c < 1)
    obtain rfl : c = 0 := Nat.lt_one_iff.mp hc
    have inside : 0 < Mode.indexed.bytes := Mode.bytes_pos .indexed
    rw [← indexAt_gifImage writable, ← index x y (sameWidth ▸ hx) (sameHeight ▸ hy)]
    exact Raster.byteAt_tabulate (f := fun x y _ => r.byteAt x y 0) hx hy inside
  refine ⟨clean, congrArg Raster.width picture, congrArg Raster.height picture, ?_,
    delay_gifImage writable, (congrArg Nat.cast clean.method).trans disposal.symm⟩
  intro x y _ _
  rw [picture, ← writable.fixed.alpha x y]

/-- So does every later frame. -/
theorem nextFrame_givesBack (g : Gif) (writable : Writable s width height) {screen : Gif.Screen}
    {method next : Nat} (clean : screen.Clean width height method)
    (disposal : s.timing.disposal = next) (small : next < 8) (kept : next = 0 → method = 0) :
    ∃ after, screen.next g (gifImage s) = some after ∧ after.isSound = true ∧
      after.Clean width height next ∧ (after.frame (gifImage s)).GivesBack s := by
  obtain ⟨after, r, drawn, shows_, clean⟩ :=
    Gif.next_of_fills g clean (gifImage_fills writable)
  rw [methodAfter_gifImage disposal small kept] at clean
  obtain ⟨surface, sameWidth, sameHeight, byte⟩ := shows_
  have picture : (after.frame (gifImage s)).picture = r.withoutAlpha := by
    rw [Gif.Screen.frame, surface]
    rfl
  refine ⟨after, drawn, by rw [Gif.Screen.isSound, surface], clean, ?_, ?_, ?_,
    delay_gifImage writable, (congrArg Nat.cast clean.method).trans disposal.symm⟩
  · rw [picture, writable.width, ← sameWidth]
    rfl
  · rw [picture, writable.height, ← sameHeight]
    rfl
  · intro x y hx hy
    rw [writable.width] at hx
    rw [writable.height] at hy
    have rgb (c : Nat) (hc : c < 3) : r.withoutAlpha.byteAt x y c =
        (Rgba.ofColor (Palette.fixed.color (s.picture.byteAt x y 0)) 255).channel c := by
      rw [Raster.withoutAlpha, Raster.byteAt_tabulate (sameWidth ▸ hx) (sameHeight ▸ hy) hc,
        byte x y hx hy c hc, indexAt_gifImage writable]
    have opaque_ : r.withoutAlpha.pixelAt x y = ⟨r.withoutAlpha.byteAt x y 0,
        r.withoutAlpha.byteAt x y 1, r.withoutAlpha.byteAt x y 2, 255⟩ := rfl
    rw [picture, opaque_, rgb 0 (by decide), rgb 1 (by decide), rgb 2 (by decide),
      writable.fixed.pixelAt]
    rfl

theorem framesAfter_givesBack (g : Gif) {screen : Gif.Screen} {method : Nat} {shots : List Shot}
    (clean : screen.Clean width height method) (writable : ∀ s ∈ shots, Writable s width height)
    (reported : Shot.Reported method shots) :
    (Gif.framesAfter g screen (shots.map gifImage)).2 = g.damage ∧
      List.Forall₂ Frame.GivesBack (Gif.framesAfter g screen (shots.map gifImage)).1 shots := by
  induction shots generalizing screen method with
  | nil => exact ⟨rfl, .nil⟩
  | cons s rest ih =>
      obtain ⟨here, later⟩ := List.forall_mem_cons.mp writable
      obtain ⟨next, disposal, small, kept, reported⟩ := reported
      have roomy := clean.roomy (gifImage_fills here)
      obtain ⟨after, drawn, sound, clean, givesBack⟩ :=
        nextFrame_givesBack g here clean disposal small kept
      obtain ⟨allSound, allBack⟩ := ih clean later reported
      rw [List.map_cons, Gif.framesAfter, roomy, drawn]
      simp only [sound, if_true, Bool.false_eq_true, if_false]
      exact ⟨allSound, .cons givesBack allBack⟩

end Encoding

/-- The file of a settled animation gives it back, where its disposals are as a
reader reports them. -/
theorem container_readsBack {a : Animation} (settled : a.Settled)
    (reported : Shot.Reported 0 a.written) :
    ReadsBack (Encoding.animation a).container a := by
  have writable : ∀ s ∈ a.written, Encoding.Writable s a.width a.height := by
    intro s member
    obtain ⟨width, height⟩ := a.sized_written s member
    exact ⟨settled.fixed s member, width, height,
      (Encoding.checkedField_eq_ok.mp (settled.recordable.delays s member)).1⟩
  have loop : (a.loop.map Int.toNat).map (fun n => (n : Int)) = a.loop := by
    cases loop : a.loop with
    | none => rfl
    | some n =>
        have nonneg := (Encoding.checkedField_eq_ok.mp (settled.recordable.loop n loop)).1
        exact congrArg some (Int.toNat_of_nonneg nonneg)
  obtain ⟨s, rest, written⟩ := List.exists_cons_of_ne_nil a.written_ne_nil
  rw [written] at writable reported
  obtain ⟨here, later⟩ := List.forall_mem_cons.mp writable
  obtain ⟨next, disposal, small, -, reported⟩ := reported
  obtain ⟨clean, firstBack⟩ :=
    Encoding.firstFrame_givesBack (Encoding.gifFile a) here rfl rfl disposal small
  obtain ⟨undamaged, laterBack⟩ :=
    Encoding.framesAfter_givesBack (Encoding.gifFile a) clean later reported
  have images : (Encoding.gifFile a).images =
      Encoding.gifImage s :: rest.map Encoding.gifImage := by
    rw [Encoding.gifFile, written, List.map_cons]
  rw [Encoding.container, Gif.container, Gif.container?, images]
  simp only [Option.getD_some]
  refine ⟨rfl, undamaged, loop, ?_⟩
  rw [written]
  exact .cons firstBack laterBack

/-- Durations that were read back are in whole hundredths of a second. -/
theorem ReadsBack.hundredths {c : Container} {a : Animation} (back : ReadsBack c a) :
    ∀ f ∈ c.frames, 10 ∣ f.timing.duration :=
  ((List.forall₂_and_left _ _).mp (back.frames.imp fun _ _ given =>
    ⟨Dvd.intro _ given.duration.symm, given⟩)).1

end Darkroom
