/-
# Darkroom.Proofs.Pixels -- a raster is its bytes

Operations on pictures are written pixel by pixel, so two results are compared
pixel by pixel: `ext_bytes` says that rasters of one kind and size with the same
bytes are the same raster, and `tabulate_congr` that a tabulated raster is made
of its bytes within the picture alone.
-/
import Darkroom.Raster.Composite
import Darkroom.Raster.Symmetry
import Mathlib.Data.List.Basic
import Mathlib.Data.Nat.Basic

namespace Darkroom.Raster

set_option autoImplicit false

section Fields

variable (mode : Mode) (width height : Nat) (f : Nat → Nat → Nat → UInt8) (r : Raster)

@[simp] theorem tabulate_mode : (tabulate mode width height f).mode = mode := rfl

@[simp] theorem tabulate_width : (tabulate mode width height f).width = width := rfl

@[simp] theorem tabulate_height : (tabulate mode width height f).height = height := rfl

@[simp] theorem tabulate_palette : (tabulate mode width height f).palette = ⟨#[]⟩ := rfl

@[simp] theorem tabulate_transparency : (tabulate mode width height f).transparency = .none := rfl

@[simp] theorem remap_mode : (r.remap width height f).mode = r.mode := rfl

@[simp] theorem remap_width : (r.remap width height f).width = width := rfl

@[simp] theorem remap_height : (r.remap width height f).height = height := rfl

@[simp] theorem remap_palette : (r.remap width height f).palette = r.palette := rfl

@[simp] theorem remap_transparency :
    (r.remap width height f).transparency = r.transparency := rfl

variable (p : Nat → Nat → Rgba)

@[simp] theorem ofPixels_mode : (ofPixels width height p).mode = .rgba := rfl

@[simp] theorem ofPixels_width : (ofPixels width height p).width = width := rfl

@[simp] theorem ofPixels_height : (ofPixels width height p).height = height := rfl

@[simp] theorem ofPixels_palette : (ofPixels width height p).palette = ⟨#[]⟩ := rfl

@[simp] theorem ofPixels_transparency : (ofPixels width height p).transparency = .none := rfl

end Fields

/-- Rasters of one mode, with the same palette and the same transparency. -/
structure SameKind (r s : Raster) : Prop where
  mode : r.mode = s.mode
  palette : r.palette = s.palette
  transparency : r.transparency = s.transparency

section Kind

variable {r s t : Raster}

theorem SameKind.refl (r : Raster) : r.SameKind r := ⟨rfl, rfl, rfl⟩

theorem SameKind.trans (one : r.SameKind s) (two : s.SameKind t) : r.SameKind t :=
  ⟨one.mode.trans two.mode, one.palette.trans two.palette,
    one.transparency.trans two.transparency⟩

theorem sameKind_remap (r : Raster) (width height : Nat) (f : Nat → Nat → Nat → UInt8) :
    (r.remap width height f).SameKind r := ⟨rfl, rfl, rfl⟩

theorem sameKind_transformed (r : Raster) (turn : Symmetry) : (r.transformed turn).SameKind r := by
  cases turn <;> exact sameKind_remap _ _ _ _

end Kind

/-! ## Bytes and places -/

/-- The place of a byte: the pixel that it belongs to and its channel. -/
theorem place_of_index {width height n i : Nat} (inside : i < width * height * n) :
    i / n % width < width ∧ i / n / width < height ∧ i % n < n := by
  have n0 : 0 < n := by
    by_contra zero
    simp [Nat.eq_zero_of_not_pos zero] at inside
  have pixel : i / n < width * height := (Nat.div_lt_iff_lt_mul n0).mpr inside
  have width0 : 0 < width := by
    by_contra zero
    simp [Nat.eq_zero_of_not_pos zero] at pixel
  exact ⟨Nat.mod_lt _ width0, (Nat.div_lt_iff_lt_mul width0).mpr (by rwa [Nat.mul_comm] at pixel),
    Nat.mod_lt _ n0⟩

theorem byteAt_place (r : Raster) {i : Nat} (inside : i < r.data.size) :
    r.byteAt (i / r.mode.bytes % r.width) (i / r.mode.bytes / r.width) (i % r.mode.bytes) =
      r.data[i] := by
  have pixel : i / r.mode.bytes / r.width * r.width + i / r.mode.bytes % r.width =
      i / r.mode.bytes := Nat.div_add_mod' _ _
  have byte : i / r.mode.bytes * r.mode.bytes + i % r.mode.bytes = i := Nat.div_add_mod' _ _
  rw [byteAt, pixel, byte, Array.getD_eq_getD_getElem?, Array.getElem?_eq_getElem inside,
    Option.getD_some]

/-- Rasters of one kind and size with the same bytes are the same raster. -/
theorem ext_bytes {r s : Raster} (mode : r.mode = s.mode) (width : r.width = s.width)
    (height : r.height = s.height) (palette : r.palette = s.palette)
    (transparency : r.transparency = s.transparency)
    (bytes : ∀ x y c, x < r.width → y < r.height → c < r.mode.bytes →
      r.byteAt x y c = s.byteAt x y c) : r = s := by
  have data : r.data = s.data := by
    apply Array.ext
    · rw [r.size_data, s.size_data, mode, width, height]
    · intro i inR inS
      obtain ⟨hx, hy, hc⟩ := place_of_index (r.size_data ▸ inR)
      have same := bytes _ _ _ hx hy hc
      rw [byteAt_place r inR] at same
      rw [same, mode, width, byteAt_place s inS]
  cases r
  cases s
  simp only [mk.injEq]
  exact ⟨mode, width, height, data, palette, transparency⟩

theorem tabulate_congr {mode : Mode} {width height : Nat} {f g : Nat → Nat → Nat → UInt8}
    (agree : ∀ x y c, x < width → y < height → c < mode.bytes → f x y c = g x y c) :
    tabulate mode width height f = tabulate mode width height g := by
  refine ext_bytes rfl rfl rfl rfl rfl fun x y c (hx : x < width) (hy : y < height)
    (hc : c < mode.bytes) => ?_
  rw [byteAt_tabulate hx hy hc, byteAt_tabulate hx hy hc, agree x y c hx hy hc]

theorem remap_congr {r : Raster} {width height : Nat} {f g : Nat → Nat → Nat → UInt8}
    (agree : ∀ x y c, x < width → y < height → c < r.mode.bytes → f x y c = g x y c) :
    r.remap width height f = r.remap width height g := by
  rw [remap, remap, tabulate_congr agree]

theorem byteAt_remap {r : Raster} {width height : Nat} {f : Nat → Nat → Nat → UInt8} {x y c : Nat}
    (hx : x < width) (hy : y < height) (hc : c < r.mode.bytes) :
    (r.remap width height f).byteAt x y c = f x y c :=
  byteAt_tabulate hx hy hc

theorem byteAt_ofPixels {width height : Nat} {p : Nat → Nat → Rgba} {x y c : Nat}
    (hx : x < width) (hy : y < height) (hc : c < 4) :
    (ofPixels width height p).byteAt x y c = (p x y).channel c :=
  byteAt_tabulate hx hy hc

theorem pixelAt_ofPixels {width height : Nat} {p : Nat → Nat → Rgba} {x y : Nat}
    (hx : x < width) (hy : y < height) : (ofPixels width height p).pixelAt x y = p x y := by
  simp only [pixelAt, ofPixels_mode, byteAt_ofPixels hx hy (by omega : 0 < 4),
    byteAt_ofPixels hx hy (by omega : 1 < 4), byteAt_ofPixels hx hy (by omega : 2 < 4),
    byteAt_ofPixels hx hy (by omega : 3 < 4), Rgba.channel]

/-- A picture laid over a canvas is blended with it as far as it goes. -/
theorem pixelAt_overlaid {canvas layer : Raster} {x y : Nat} (hx : x < canvas.width)
    (hy : y < canvas.height) : (canvas.overlaid layer).pixelAt x y =
      if x < layer.width ∧ y < layer.height then
        (layer.pixelAt x y).above (canvas.pixelAt x y)
      else canvas.pixelAt x y :=
  pixelAt_ofPixels hx hy

theorem ofPixels_congr {width height : Nat} {p q : Nat → Nat → Rgba}
    (agree : ∀ x y, x < width → y < height → p x y = q x y) :
    ofPixels width height p = ofPixels width height q := by
  apply tabulate_congr
  intro x y c hx hy _
  rw [agree x y hx hy]

/-- What a pixel stands for is made of its bytes and of what stands beside them. -/
theorem pixelAt_congr {r s : Raster} (kind : r.SameKind s) {x y x' y' : Nat}
    (bytes : ∀ c < r.mode.bytes, r.byteAt x y c = s.byteAt x' y' c) :
    r.pixelAt x y = s.pixelAt x' y' := by
  obtain ⟨mode, palette, transparency⟩ := kind
  have word : r.wordAt x y = s.wordAt x' y' := by
    rw [wordAt, wordAt, ← mode]
    exact List.foldr_ext _ _ _ fun c member n => by rw [bytes c (List.mem_range.mp member)]
  simp only [pixelAt, grayAt, ← mode, ← palette, ← transparency, ← word]
  cases known : r.mode <;> rw [known] at bytes <;> simp (disch := decide) only [bytes]

theorem pixelAt_of_rgba {r : Raster} (isRgba : r.mode = .rgba) (x y : Nat) :
    r.pixelAt x y = ⟨r.byteAt x y 0, r.byteAt x y 1, r.byteAt x y 2, r.byteAt x y 3⟩ := by
  simp [pixelAt, isRgba]

/-- A picture that is mapped onto itself byte by byte. -/
theorem remap_self (r : Raster) : r.remap r.width r.height r.byteAt = r :=
  ext_bytes rfl rfl rfl rfl rfl fun _ _ _ hx hy hc => byteAt_remap hx hy hc

/-! ## What stands beside the pixels -/

section Beside

variable {r s : Raster}

/-- One mode, one size and the same bytes, whatever stands beside the pixels. -/
structure SamePixels (r s : Raster) : Prop where
  mode : r.mode = s.mode
  width : r.width = s.width
  height : r.height = s.height
  data : r.data = s.data

/-- The pixels with nothing beside them. -/
def bare (r : Raster) : Raster := { r with palette := ⟨#[]⟩, transparency := .none }

theorem samePixels_iff : r.SamePixels s ↔ r.bare = s.bare := by
  obtain ⟨mode, width, height, data, _, _, _⟩ := r
  obtain ⟨mode', width', height', data', _, _, _⟩ := s
  simp only [bare, mk.injEq, and_true]
  constructor
  · intro same
    exact ⟨same.mode, same.width, same.height, same.data⟩
  · rintro ⟨mode, width, height, data⟩
    exact ⟨mode, width, height, data⟩

theorem SamePixels.trans {t : Raster} (one : r.SamePixels s) (two : s.SamePixels t) :
    r.SamePixels t := by
  rw [samePixels_iff] at one two ⊢
  exact one.trans two

end Beside

/-! ## Conversions -/

section Conversions

variable {r p : Raster}

theorem toRgb_size (made : r.toRgb = .ok p) : p.width = r.width ∧ p.height = r.height := by
  unfold toRgb at made
  split_ifs at made <;> obtain rfl := Except.ok.inj made <;> exact ⟨rfl, rfl⟩

theorem toRgba_size (made : r.toRgba = .ok p) : p.width = r.width ∧ p.height = r.height := by
  unfold toRgba at made
  split_ifs at made <;> obtain rfl := Except.ok.inj made <;> exact ⟨rfl, rfl⟩

/-- In RGBA every pixel is what it stands for. -/
theorem pixelAt_toRgba (made : r.toRgba = .ok p) {x y : Nat} (hx : x < r.width)
    (hy : y < r.height) : p.pixelAt x y = r.pixelAt x y := by
  unfold toRgba at made
  split_ifs at made <;> obtain rfl := Except.ok.inj made
  · rfl
  · exact pixelAt_ofPixels hx hy

theorem toRgba_found (r : Raster) (colours : r.isConvertible = true) :
    ∃ p, r.toRgba = .ok p := by
  rw [toRgba, if_pos colours]
  split <;> exact ⟨_, rfl⟩

theorem toRgb_found (r : Raster) (colours : r.isConvertible = true) : ∃ p, r.toRgb = .ok p := by
  rw [toRgb, if_pos colours]
  split <;> exact ⟨_, rfl⟩

theorem normalized_found (r : Raster) (colours : r.isConvertible = true) :
    ∃ p, r.normalized = .ok p := by
  unfold normalized
  split
  · exact r.toRgba_found colours
  · exact r.toRgb_found colours

theorem isConvertible_of_plain (plain : r.mode = .rgb ∨ r.mode = .rgba) :
    r.isConvertible = true := by
  rcases plain with mode | mode <;> rw [isConvertible, mode] <;> rfl

theorem normalized_mode (made : r.normalized = .ok p) : p.mode = .rgb ∨ p.mode = .rgba := by
  unfold normalized toRgba toRgb at made
  split_ifs at made <;> obtain rfl := Except.ok.inj made <;> simp_all

/-- Only a picture with colours is brought to RGB or RGBA. -/
theorem isConvertible_of_normalized (made : r.normalized = .ok p) : r.isConvertible = true := by
  by_contra colourless
  unfold normalized toRgba toRgb at made
  split_ifs at made with _ mode mode <;> exact colourless (by rw [isConvertible, mode]; rfl)

theorem normalized_size (made : r.normalized = .ok p) :
    p.width = r.width ∧ p.height = r.height := by
  unfold normalized at made
  split_ifs at made
  · exact toRgba_size made
  · exact toRgb_size made

/-- A picture as it is decoded and as the steps leave it: in RGBA, or in RGB with no mark
beside the pixels. -/
def IsDecoded (r : Raster) : Prop := r.mode = .rgba ∨ r.mode = .rgb ∧ r.transparency = .none

theorem isDecoded_of_normalized (made : p.normalized = .ok r) : r.IsDecoded := by
  unfold normalized at made
  split_ifs at made with alpha
  · left
    unfold toRgba at made
    split_ifs at made with already <;> obtain rfl := Except.ok.inj made
    · exact already
    · rfl
  · right
    unfold toRgb at made
    split_ifs at made with already <;> obtain rfl := Except.ok.inj made
    · simp only [hasAlpha, Bool.or_eq_true, decide_eq_true_eq, not_or, not_not] at alpha
      exact ⟨already, alpha.2⟩
    · exact ⟨rfl, rfl⟩

/-- What is of the kind of a decoded picture is like one. -/
theorem IsDecoded.of_sameKind (kind : p.SameKind r) (decoded : r.IsDecoded) : p.IsDecoded := by
  obtain ⟨mode, -, transparency⟩ := kind
  rw [IsDecoded, mode, transparency]
  exact decoded

theorem IsDecoded.plain (decoded : r.IsDecoded) : r.mode = .rgb ∨ r.mode = .rgba :=
  decoded.symm.imp_left And.left

end Conversions

/-! ## Opaque pixels -/

/-- Opaque pixels lose nothing in RGB. -/
theorem pixelAt_ofColors {width height : Nat} {p : Nat → Nat → Rgba} {x y : Nat} (hx : x < width)
    (hy : y < height) (solid : (p x y).alpha = 255) :
    (tabulate .rgb width height fun x y c => (p x y).channel c).pixelAt x y = p x y := by
  simp only [pixelAt, tabulate_mode, byteAt_tabulate hx hy (by decide : 0 < Mode.rgb.bytes),
    byteAt_tabulate hx hy (by decide : 1 < Mode.rgb.bytes),
    byteAt_tabulate hx hy (by decide : 2 < Mode.rgb.bytes), tabulate_transparency, colorMask,
    ← solid]
  rfl

/-- A picture without alpha and without a mark of transparency is opaque everywhere. -/
theorem alpha_pixelAt {r : Raster} (plain : r.hasAlpha = false) (x y : Nat) :
    (r.pixelAt x y).alpha = 255 := by
  simp only [hasAlpha, Bool.or_eq_false_iff, decide_eq_false_iff_not, not_not] at plain
  obtain ⟨noAlpha, unmarked⟩ := plain
  unfold pixelAt
  cases mode : r.mode <;>
    simp_all [modeHasAlpha, Rgba.ofGray, Rgba.ofColor, grayMask, colorMask, indexMask]

end Darkroom.Raster

namespace Darkroom.Rgba

/-- A blend with nothing of what is below keeps the byte. -/
theorem shed_full {v : Nat} (byte : v < 256) : shed (v * 32640 + 16384) / 128 = v := by
  unfold shed
  omega

/-- A pixel that is not drawn leaves what is below it. -/
theorem above_of_clear {top : Rgba} (clear : top.alpha = 0) (below : Rgba) :
    top.above below = below := by
  rw [above, if_pos clear]

/-- An opaque pixel covers whatever is below it. -/
theorem above_of_solid {top : Rgba} (solid : top.alpha = 255) (below : Rgba) :
    top.above below = top := by
  have blend (s : UInt8) : UInt8.ofNat (shed (s.toNat * 32640 + 16384) / 128) = s := by
    rw [shed_full s.toNat_lt, UInt8.ofNat_toNat]
  have alpha : UInt8.ofNat (shed (255 * 255 + 128)) = top.alpha := by
    rw [solid]
    decide
  have nonzero : top.alpha ≠ 0 := by
    rw [solid]
    decide
  rw [above, if_neg nonzero]
  simp only [solid, UInt8.reduceToNat, Nat.sub_self, Nat.mul_zero, Nat.add_zero,
    Nat.reduceMul, Nat.reduceDiv, blend]
  cases top
  simp_all

end Darkroom.Rgba
