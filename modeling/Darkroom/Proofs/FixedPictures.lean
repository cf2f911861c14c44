/-
# Darkroom.Proofs.FixedPictures -- pictures in the fixed palette

A reduced picture has the fixed palette and is opaque (`IsFixed.of_paletted`).
Laying it another way keeps it so, and a canvas that shows its colours is reduced
to that very picture (`paletted_of_shown`): once in the palette, nothing is lost
any more.
-/
import Darkroom.Proofs.Dithering
import Darkroom.Proofs.Orientation

namespace Darkroom.Raster

set_option autoImplicit false

/-- A picture of indices in the fixed palette, opaque everywhere. -/
structure IsFixed (r : Raster) : Prop where
  mode : r.mode = .indexed
  palette : r.palette = .fixed
  transparency : r.transparency = .none

variable {r s canvas : Raster}

theorem IsFixed.of_paletted {p : Raster} (made : r.paletted 256 = .ok p) : p.IsFixed := by
  obtain ⟨rgb, -, made⟩ := Outcome.bind_eq_ok.mp made
  rw [if_pos rfl] at made
  obtain rfl := Except.ok.inj made
  exact ⟨rfl, rfl, rfl⟩

theorem IsFixed.laid (fixed : r.IsFixed) (g : Orientation) : (r.laid g).IsFixed :=
  ⟨fixed.mode, fixed.palette, fixed.transparency⟩

theorem IsFixed.pixelAt (fixed : r.IsFixed) (x y : Nat) :
    r.pixelAt x y = .ofColor (Palette.fixed.color (r.byteAt x y 0)) 255 := by
  simp [Raster.pixelAt, fixed.mode, fixed.palette, fixed.transparency, indexMask]

theorem IsFixed.alpha (fixed : r.IsFixed) (x y : Nat) : (r.pixelAt x y).alpha = 255 := by
  rw [fixed.pixelAt]
  rfl

/-- Pictures of one size in the fixed palette differ in their indices alone. -/
theorem IsFixed.eq_of_data (one : r.IsFixed) (two : s.IsFixed) (width : r.width = s.width)
    (height : r.height = s.height) (data : r.data = s.data) : r = s := by
  obtain ⟨mode, w, h, bytes, palette, transparency, size⟩ := r
  obtain ⟨mode', w', h', bytes', palette', transparency', size'⟩ := s
  obtain ⟨rfl, rfl, rfl⟩ := one
  obtain ⟨rfl, rfl, rfl⟩ := two
  obtain rfl : w = w' := width
  obtain rfl : h = h' := height
  obtain rfl : bytes = bytes' := data
  rfl

/-- They are told apart by their bytes, which are those indices. -/
theorem IsFixed.eq_of_packed (one : r.IsFixed) (two : s.IsFixed) (width : r.width = s.width)
    (height : r.height = s.height) (packed : r.packed = s.packed) : r = s := by
  have indices {q : Raster} (fixed : q.IsFixed) : q.packed = q.data :=
    packed_of_ne_bilevel (by rw [fixed.mode]; decide)
  rw [indices one, indices two] at packed
  exact one.eq_of_data two width height packed

theorem IsFixed.eq_ofIndices (fixed : r.IsFixed) :
    ofIndices r.width r.height (fun x y => r.byteAt x y 0) = r := by
  refine ext_bytes fixed.mode.symm rfl rfl fixed.palette.symm fixed.transparency.symm ?_
  intro x y c (hx : x < r.width) (hy : y < r.height) (hc : c < 1)
  obtain rfl : c = 0 := Nat.lt_one_iff.mp hc
  exact byteAt_ofIndices _ hx hy

/-- An RGBA canvas that shows the colours of a picture. -/
structure Shows (canvas r : Raster) : Prop where
  mode : canvas.mode = .rgba
  width : canvas.width = r.width
  height : canvas.height = r.height
  pixel : ∀ x y, x < r.width → y < r.height → canvas.pixelAt x y = r.pixelAt x y

/-- A canvas and a picture that are laid alike show alike. -/
theorem Shows.laid (shows_ : canvas.Shows r) (fixed : r.IsFixed) (g : Orientation) :
    (canvas.laid g).Shows (r.laid g) := by
  obtain ⟨mode, width, height, pixel⟩ := shows_
  refine ⟨mode, by rw [laid_width, laid_width, width, height],
    by rw [laid_height, laid_height, width, height], fun x y hx hy => ?_⟩
  obtain ⟨inX, inY⟩ := source_inside r g hx hy
  have same := pixel _ _ inX inY
  have hx' : x < (canvas.laid g).width := by rwa [laid_width, width, height, ← laid_width]
  have hy' : y < (canvas.laid g).height := by rwa [laid_height, width, height, ← laid_height]
  rw [pixelAt_of_rgba mode, fixed.pixelAt, ← width, ← height] at same
  have byte (c : Nat) (channel : c < 4) := byteAt_laid canvas g hx' hy'
    (show c < canvas.mode.bytes by rw [mode]; exact channel)
  rw [pixelAt_of_rgba (r := canvas.laid g) mode, byte 0 (by decide), byte 1 (by decide),
    byte 2 (by decide), byte 3 (by decide), same, (fixed.laid g).pixelAt,
    byteAt_laid r g hx hy (by rw [fixed.mode]; decide), width, height]

/-- A picture whose colours are those of the indices given is reduced to these. -/
theorem paletted_of_colors {rgb : Raster} (dropped : r.toRgb = .ok rgb) (index : Nat → Nat → UInt8)
    (color : ∀ x y, x < rgb.width → y < rgb.height →
      (rgb.byteAt x y 0, rgb.byteAt x y 1, rgb.byteAt x y 2) = Palette.fixed.color (index x y)) :
    r.paletted 256 = .ok (ofIndices rgb.width rgb.height index) := by
  rw [paletted, dropped, Outcome.ok_bind, if_pos rfl, dithered_of_fixed index color]
  rfl

/-- The colours of a picture that is not RGB yet. -/
theorem toRgb_eq_ok (other : r.mode ≠ .rgb) (colours : r.isConvertible = true) : r.toRgb =
    .ok (tabulate .rgb r.width r.height fun x y c => (r.pixelAt x y).channel c) := by
  rw [toRgb, if_neg other, if_pos colours]

/-- A picture that stands for the colours of a picture in the fixed palette is reduced to
that picture. -/
theorem paletted_of_pixels (fixed : r.IsFixed) (other : canvas.mode ≠ .rgb)
    (colours : canvas.isConvertible = true) (width : canvas.width = r.width)
    (height : canvas.height = r.height)
    (pixel : ∀ x y, x < r.width → y < r.height → canvas.pixelAt x y = r.pixelAt x y) :
    canvas.paletted 256 = .ok r := by
  rw [paletted_of_colors (toRgb_eq_ok other colours) fun x y => r.byteAt x y 0]
  · rw [tabulate_width, tabulate_height, width, height, fixed.eq_ofIndices]
  · intro x y (hx : x < canvas.width) (hy : y < canvas.height)
    rw [byteAt_tabulate hx hy (by decide), byteAt_tabulate hx hy (by decide),
      byteAt_tabulate hx hy (by decide), pixel x y (width ▸ hx) (height ▸ hy), fixed.pixelAt]
    generalize Palette.fixed.color (r.byteAt x y 0) = color
    rfl

/-- A canvas that shows a picture in the fixed palette is reduced to that picture. -/
theorem paletted_of_shown (shows_ : canvas.Shows r) (fixed : r.IsFixed) :
    canvas.paletted 256 = .ok r := by
  obtain ⟨mode, width, height, pixel⟩ := shows_
  have other : canvas.mode ≠ .rgb := by
    rw [mode]
    decide
  exact paletted_of_pixels fixed other (isConvertible_of_plain (.inr mode)) width height pixel

/-- A picture in the fixed palette is reduced to itself. -/
theorem IsFixed.paletted (fixed : r.IsFixed) : r.paletted 256 = .ok r := by
  have other : r.mode ≠ .rgb := by
    rw [fixed.mode]
    decide
  have colours : r.isConvertible = true := by
    rw [isConvertible, fixed.mode]
    rfl
  exact paletted_of_pixels fixed other colours rfl rfl fun x y _ _ => rfl

end Darkroom.Raster
