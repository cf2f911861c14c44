/-
# Darkroom.Proofs.Reducing -- exact on the palette, and only there

A picture of palette colours is reduced to these very colours, and no pixel passes on
an error: every row on its way is `Quiet`.  The converse holds too.  A row that takes a
pixel quietly has found the value of the pixel itself among the entries
(`fixed_of_next`), so a picture that is reduced silently is made of palette colours
(`fixed_of_silent`).

What has been reduced is such a picture, and reducing it again changes nothing
(`reduced_exactly`).
-/
import Darkroom.Proofs.FixedPictures

namespace Darkroom

set_option autoImplicit false

namespace Palette

variable {point : Triple Nat} {e : Entry} {entries : List Entry}

/-- What is found is among the entries, or was found before. -/
theorem mem_of_closest?_from (best : Option Entry)
    (found : entries.foldl (fun best e =>
      match best with
      | none => some e
      | some b => if distance e.2 point < distance b.2 point then some e else some b) best =
        some e) : best = some e ∨ e ∈ entries := by
  induction entries generalizing best with
  | nil => exact .inl found
  | cons f rest ih =>
      rcases ih _ found with start | later
      · cases best with
        | none =>
            obtain rfl := Option.some.inj start
            exact .inr (List.mem_cons_self ..)
        | some b =>
            simp only at start
            split_ifs at start
            · obtain rfl := Option.some.inj start
              exact .inr (List.mem_cons_self ..)
            · exact .inl start
      · exact .inr (List.mem_cons_of_mem f later)

theorem mem_of_closest? (found : closest? point entries = some e) : e ∈ entries := by
  rcases mem_of_closest?_from none found with start | member
  · cases start
  · exact member

/-- Whatever a value takes is a fixed colour with its index. -/
theorem nearest_mem_fixed (v : Triple Nat) (red : v.red < 256) (green : v.green < 256)
    (blue : v.blue < 256) : ∃ i < 256, Raster.fixedChart.nearest v = (i, fixedTriple i) := by
  rw [Chart.nearest, Raster.fixedChart, chart_cube _ _ red green blue]
  cases found : closest? (v.map cellCorner) (candidates fixed.entries (v.map cubeBase)) with
  | none => exact ⟨0, by decide, rfl⟩
  | some e =>
      have listed := mem_of_mem_candidates (mem_of_closest? found)
      rw [entries_fixed, List.mem_map] at listed
      obtain ⟨i, inside, rfl⟩ := listed
      exact ⟨i, List.mem_range.mp inside, rfl⟩

/-- A colour is in the fixed palette if it is the colour of an index. -/
theorem mem_fixed_iff {color : UInt8 × UInt8 × UInt8} :
    color ∈ fixed.colors ↔ ∃ index : UInt8, fixed.color index = color := by
  have size : fixed.colors.size = 256 := by simp [fixed, fixedColors]
  constructor
  · intro member
    obtain ⟨i, inside, rfl⟩ := Array.mem_iff_getElem.mp member
    refine ⟨UInt8.ofNat i, ?_⟩
    rw [Palette.color, UInt8.toNat_ofNat', Nat.mod_eq_of_lt (inside.trans_eq size),
      Array.getD_eq_getD_getElem?, Array.getElem?_eq_getElem inside, Option.getD_some]
  · rintro ⟨index, rfl⟩
    have inside : index.toNat < fixed.colors.size := by
      rw [size]
      exact index.toNat_lt
    rw [Palette.color, Array.getD_eq_getD_getElem?, Array.getElem?_eq_getElem inside]
    exact Array.getElem_mem inside

end Palette

theorem Triple.map_injective {α β : Type} {f : α → β} (injective : Function.Injective f) :
    Function.Injective (Triple.map f) := by
  rintro ⟨red, green, blue⟩ ⟨red', green', blue'⟩ same
  simp only [Triple.map, Triple.mk.injEq, injective.eq_iff] at same
  rw [Triple.mk.injEq]
  exact same

namespace Dither

variable {chart : Palette.Chart} {width height x y : Nat} {pixel other : Nat → Nat → Triple UInt8}

/-- No error is on its way in a row, and none is left for the next row. -/
structure Quiet (r : Row) : Prop where
  carry : r.carry = still
  errors : NoError r.errors

/-- A picture is reduced silently: at no pixel of any row an error is on its way. -/
structure Silent (chart : Palette.Chart) (width height : Nat)
    (pixel : Nat → Nat → Triple UInt8) : Prop where
  arriving : ∀ y < height, NoError (above chart width y pixel).2
  passing : ∀ y < height, ∀ x ≤ width,
    Quiet (row chart x (fun x => pixel x y) (above chart width y pixel).2)

theorem quiet_exactRow (indices : List UInt8) : Quiet (exactRow indices) :=
  ⟨rfl, noError_replicate _⟩

theorem Silent.congr (agree : ∀ x < width, ∀ y < height, pixel x y = other x y)
    (silent : Silent chart width height pixel) : Silent chart width height other := by
  have reached (y : Nat) (hy : y < height) :
      above chart width y other = above chart width y pixel :=
    above_congr fun x hx z hz => (agree x hx z (hz.trans hy)).symm
  constructor
  · intro y hy
    rw [reached y hy]
    exact silent.arriving y hy
  · intro y hy x hx
    rw [reached y hy, row_congr _ fun z hz => (agree z (hz.trans_le hx) y hy).symm]
    exact silent.passing y hy x hx

/-- Palette colours are reduced silently. -/
theorem silent_of_fixed (index : Nat → Nat → UInt8) :
    Silent Raster.fixedChart width height fun x y => fixedBytes (index x y) := by
  have arriving (y : Nat) : NoError
      (above Raster.fixedChart width y fun x y => fixedBytes (index x y)).2 := by
    obtain ⟨errors, quiet, value⟩ := @above_of_fixed width y index
    rwa [value]
  refine ⟨fun y _ => arriving y, fun y _ x _ => ?_⟩
  rw [row_of_fixed (arriving y)]
  exact quiet_exactRow _

/-- A pixel that is taken without passing on an error is a palette colour. -/
theorem fixed_of_next {r : Row} {color : Triple UInt8} (before : r.carry = still)
    (after : (r.next Raster.fixedChart color ⟨0, 0, 0⟩).carry = still) :
    ∃ index, color = fixedBytes index := by
  obtain ⟨i, inside, found⟩ := Palette.nearest_mem_fixed (color.map UInt8.toNat)
    color.red.toNat_lt color.green.toNat_lt color.blue.toNat_lt
  simp only [Triple.map] at found
  simp only [Row.next, before, still, Triple.zip, Triple.map, Carry.zero, Int.add_zero,
    corrected_zero, found, Carry.spread, Triple.mk.injEq, Carry.mk.injEq] at after
  obtain ⟨⟨-, -, red⟩, ⟨-, -, green⟩, -, -, blue⟩ := after
  refine ⟨UInt8.ofNat i, ?_⟩
  have value := toNat_fixedBytes (UInt8.ofNat i)
  rw [UInt8.toNat_ofNat', Nat.mod_eq_of_lt inside] at value
  have same : color.map UInt8.toNat = (fixedBytes (UInt8.ofNat i)).map UInt8.toNat := by
    rw [value, Triple.map, Triple.mk.injEq]
    omega
  exact Triple.map_injective (fun _ _ => UInt8.toNat_inj.mp) same

/-- A picture that is reduced silently is made of palette colours. -/
theorem fixed_of_silent (silent : Silent Raster.fixedChart width height pixel) (hx : x < width)
    (hy : y < height) : ∃ index, pixel x y = fixedBytes index := by
  have before := silent.passing y hy x hx.le
  have after := silent.passing y hy (x + 1) hx
  rw [row_succ, silent.arriving y hy] at after
  exact fixed_of_next before.carry after.carry

end Dither

namespace Raster

variable {r rgb : Raster} {width height : Nat}

/-- The colour at a place of an RGB picture. -/
def colorAt (r : Raster) (x y : Nat) : UInt8 × UInt8 × UInt8 :=
  (r.byteAt x y 0, r.byteAt x y 1, r.byteAt x y 2)

/-- An RGB picture is made of colours of a palette. -/
def InPalette (r : Raster) (p : Palette) : Prop :=
  ∀ x < r.width, ∀ y < r.height, r.colorAt x y ∈ p.colors

instance (r : Raster) (p : Palette) : Decidable (r.InPalette p) :=
  inferInstanceAs (Decidable (∀ x < r.width, ∀ y < r.height, _))

/-- The colours of an RGB picture as its reduction reads them. -/
def triples (r : Raster) (x y : Nat) : Triple UInt8 :=
  ⟨r.byteAt x y 0, r.byteAt x y 1, r.byteAt x y 2⟩

/-- The indices of a picture of palette colours. -/
theorem InPalette.indices (made : r.InPalette .fixed) : ∃ index : Nat → Nat → UInt8,
    ∀ x y, x < r.width → y < r.height → r.colorAt x y = Palette.fixed.color (index x y) := by
  have each (x y : Nat) : ∃ index : UInt8, x < r.width → y < r.height →
      r.colorAt x y = Palette.fixed.color index := by
    by_cases inside : x < r.width ∧ y < r.height
    · obtain ⟨index, color⟩ := Palette.mem_fixed_iff.mp (made x inside.1 y inside.2)
      exact ⟨index, fun _ _ => color.symm⟩
    · exact ⟨0, fun hx hy => absurd ⟨hx, hy⟩ inside⟩
  choose index color using each
  exact ⟨index, color⟩

theorem colorAt_of_triples {x y : Nat} {index : UInt8}
    (color : r.triples x y = Dither.fixedBytes index) :
    r.colorAt x y = Palette.fixed.color index := by
  rw [Dither.fixedBytes, triples, Triple.mk.injEq] at color
  obtain ⟨red, green, blue⟩ := color
  rw [colorAt, red, green, blue]

/-- A picture is reduced silently if it is made of palette colours, and not otherwise. -/
theorem silent_iff : Dither.Silent fixedChart r.width r.height r.triples ↔
    r.InPalette .fixed := by
  constructor
  · intro silent x hx y hy
    obtain ⟨index, color⟩ := Dither.fixed_of_silent silent hx hy
    exact Palette.mem_fixed_iff.mpr ⟨index, (colorAt_of_triples color).symm⟩
  · intro made
    obtain ⟨index, color⟩ := made.indices
    refine (Dither.silent_of_fixed index).congr fun x hx y hy => ?_
    rw [Dither.fixedBytes, ← color x y hx hy]
    rfl

/-- Reducing a picture to the fixed palette is exact on the palette and nowhere else: it
keeps the colours of a picture if they are all in the palette, and then no error is
passed on from any pixel.  What has been reduced is kept as it is. -/
theorem reduced_exactly (colours : r.isConvertible = true) :
    ∃ rgb p, r.toRgb = .ok rgb ∧ r.paletted 256 = .ok p ∧
      (p.width = r.width ∧ p.height = r.height) ∧
      (rgb.InPalette .fixed ↔ ∀ x < r.width, ∀ y < r.height,
        p.palette.color (p.byteAt x y 0) = rgb.colorAt x y) ∧
      (rgb.InPalette .fixed ↔ Dither.Silent fixedChart rgb.width rgb.height rgb.triples) ∧
      p.paletted 256 = .ok p := by
  obtain ⟨rgb, dropped⟩ := r.toRgb_found colours
  obtain ⟨width, height⟩ := toRgb_size dropped
  have reduced : r.paletted 256 = .ok (rgb.dithered .fixed fixedChart) := by
    rw [paletted, dropped, Outcome.ok_bind, if_pos rfl]
    rfl
  refine ⟨rgb, _, dropped, reduced, paletted_size reduced, ⟨?_, ?_⟩, silent_iff.symm,
    (IsFixed.of_paletted reduced).paletted⟩
  · intro made x hx y hy
    obtain ⟨index, color⟩ := made.indices
    rw [← width] at hx
    rw [← height] at hy
    rw [dithered_of_fixed index color, color x y hx hy, byteAt_ofIndices index hx hy]
    rfl
  · intro kept x hx y hy
    rw [Palette.mem_fixed_iff]
    exact ⟨_, kept x (width ▸ hx) y (height ▸ hy)⟩

/-- Two pixels of palette colours, one of them see-through and the other half so. -/
def swatches : Raster :=
  .ofPixels 2 1 fun x _ => if x = 0 then ⟨255, 255, 255, 0⟩ else ⟨0, 0, 68, 128⟩

/-- Hidden or not, the colours are kept. -/
theorem swatches_kept : ∃ p, swatches.paletted 256 = .ok p ∧
    p.palette.color (p.byteAt 0 0 0) = (255, 255, 255) ∧
    p.palette.color (p.byteAt 1 0 0) = (0, 0, 68) ∧ p.paletted 256 = .ok p := by
  have other : swatches.mode ≠ .rgb := by decide
  obtain ⟨rgb, p, dropped, reduced, -, exact_, -, again⟩ :=
    reduced_exactly (show swatches.isConvertible = true from rfl)
  obtain rfl := Except.ok.inj ((toRgb_eq_ok other rfl).symm.trans dropped)
  have white : (255, 255, 255) ∈ Palette.fixed.colors :=
    Palette.mem_fixed_iff.mpr ⟨255, Dither.color_fixed 255⟩
  have blue : (0, 0, 68) ∈ Palette.fixed.colors :=
    Palette.mem_fixed_iff.mpr ⟨1, Dither.color_fixed 1⟩
  have left : colorAt (tabulate .rgb 2 1 fun x y c => (swatches.pixelAt x y).channel c) 0 0 =
      (255, 255, 255) := by decide +kernel
  have right : colorAt (tabulate .rgb 2 1 fun x y c => (swatches.pixelAt x y).channel c) 1 0 =
      (0, 0, 68) := by decide +kernel
  have kept := exact_.mp fun x (hx : x < 2) y (hy : y < 1) => by
    obtain rfl : y = 0 := by omega
    obtain rfl | rfl : x = 0 ∨ x = 1 := by omega
    · exact left ▸ white
    · exact right ▸ blue
  exact ⟨p, reduced, (kept 0 Nat.two_pos 0 Nat.one_pos).trans left,
    (kept 1 Nat.one_lt_two 0 Nat.one_pos).trans right, again⟩

end Raster

end Darkroom
