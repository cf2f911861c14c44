/-
# Darkroom.Proofs.Dithering -- palette colours pass on no error

Reducing a picture looks at its colours alone (`dithered_congr`), and at a colour
of the palette it finds that colour again.  Nothing is left to pass on then, so
along a row, and from row to row, the errors on their way stay zero: `Row.next`
keeps `exactRow`, and the rows of a picture made of palette colours are its
indices (`dithered_of_fixed`).
-/
import Darkroom.Proofs.FixedPalette
import Darkroom.Proofs.Outcome
import Darkroom.Proofs.Pixels
import Mathlib.Data.List.Flatten

namespace Darkroom

set_option autoImplicit false

namespace Dither

variable {chart : Palette.Chart} {width height : Nat}

/-! ## What is read -/

theorem row_congr {pixel other : Nat → Triple UInt8} (above : Array (Triple Int))
    (agree : ∀ x < width, pixel x = other x) :
    row chart width pixel above = row chart width other above := by
  unfold row
  apply List.foldl_ext
  intro state x member
  rw [agree x (List.mem_range.mp member)]

/-- One more pixel of a row. -/
theorem row_succ (pixel : Nat → Triple UInt8) (above : Array (Triple Int)) (x : Nat) :
    row chart (x + 1) pixel above =
      (row chart x pixel above).next chart (pixel x) (above.getD (x + 1) ⟨0, 0, 0⟩) := by
  rw [row, List.range_succ, List.foldl_append]
  rfl

/-- What the first rows come to: their indices, and the errors that they leave for the
next one. -/
def above (chart : Palette.Chart) (width height : Nat) (pixel : Nat → Nat → Triple UInt8) :
    Array UInt8 × Array (Triple Int) :=
  (List.range height).foldl (fun done y =>
    let r := row chart width (fun x => pixel x y) done.2
    (done.1 ++ r.indices, r.errors.push r.tail)) (#[], #[])

theorem rows_eq_above (pixel : Nat → Nat → Triple UInt8) :
    rows chart width height pixel = (above chart width height pixel).1 := rfl

/-- One more row. -/
theorem above_succ (pixel : Nat → Nat → Triple UInt8) : above chart width (height + 1) pixel =
    let done := above chart width height pixel
    let r := row chart width (fun x => pixel x height) done.2
    (done.1 ++ r.indices, r.errors.push r.tail) := by
  rw [above, List.range_succ, List.foldl_append]
  rfl

theorem above_congr {pixel other : Nat → Nat → Triple UInt8}
    (agree : ∀ x < width, ∀ y < height, pixel x y = other x y) :
    above chart width height pixel = above chart width height other := by
  unfold above
  apply List.foldl_ext
  intro done y member
  have same : row chart width (fun x => pixel x y) done.2 =
      row chart width (fun x => other x y) done.2 :=
    row_congr done.2 fun x hx => agree x hx y (List.mem_range.mp member)
  simp only [same]

theorem rows_congr {pixel other : Nat → Nat → Triple UInt8}
    (agree : ∀ x < width, ∀ y < height, pixel x y = other x y) :
    rows chart width height pixel = rows chart width height other := by
  rw [rows_eq_above, rows_eq_above, above_congr agree]

/-! ## Exact rows -/

/-- A fixed colour as three bytes. -/
def fixedBytes (index : UInt8) : Triple UInt8 :=
  ⟨(Palette.fixed.color index).1, (Palette.fixed.color index).2.1, (Palette.fixed.color index).2.2⟩

theorem color_fixed (index : UInt8) : Palette.fixed.color index =
    (UInt8.ofNat (Palette.fixedTriple index.toNat).red,
      UInt8.ofNat (Palette.fixedTriple index.toNat).green,
      UInt8.ofNat (Palette.fixedTriple index.toNat).blue) := by
  have inside : index.toNat < 256 := index.toNat_lt
  simp only [Palette.color, Palette.fixed, Palette.fixedColors, Array.getD_eq_getD_getElem?,
    List.getElem?_toArray, List.getElem?_map, List.getElem?_range inside, Option.map_some,
    Option.getD_some, Palette.fixedTriple]

theorem toNat_fixedBytes (index : UInt8) :
    (fixedBytes index).map UInt8.toNat = Palette.fixedTriple index.toNat := by
  have inside : index.toNat < 256 := index.toNat_lt
  obtain ⟨red, green, blue⟩ := Palette.fixedTriple_spec index.toNat inside
  have byte {v level top brightness : Nat} (holds : Palette.HasLevel v level top brightness)
      (low : level < 4) : (UInt8.ofNat v).toNat = v := by
    obtain ⟨share, rest, -⟩ := holds
    rw [UInt8.toNat_ofNat']
    omega
  rw [fixedBytes, color_fixed]
  simp only [Triple.map]
  rw [byte red (by omega), byte green (by omega), byte blue (by omega)]

/-- No error is on its way. -/
def still : Triple Carry := ⟨.zero, .zero, .zero⟩

/-- A row whose pixels have taken the indices given and have passed on nothing. -/
def exactRow (indices : List UInt8) : Row :=
  ⟨indices.toArray, Array.replicate indices.length ⟨0, 0, 0⟩, still⟩

theorem corrected_zero (v : UInt8) : corrected v 0 = v.toNat := by
  have := v.toNat_lt
  unfold corrected
  rw [Int.zero_tdiv]
  omega

/-- A palette colour takes its index and leaves nothing over. -/
theorem next_exactRow (indices : List UInt8) (index : UInt8) :
    (exactRow indices).next Raster.fixedChart (fixedBytes index) ⟨0, 0, 0⟩ =
      exactRow (indices ++ [index]) := by
  have value : Triple.mk (fixedBytes index).red.toNat (fixedBytes index).green.toNat
      (fixedBytes index).blue.toNat = Palette.fixedTriple index.toNat := toNat_fixedBytes index
  have found : Raster.fixedChart.nearest (Triple.mk (fixedBytes index).red.toNat
      (fixedBytes index).green.toNat (fixedBytes index).blue.toNat) =
      (index.toNat, Triple.mk (fixedBytes index).red.toNat (fixedBytes index).green.toNat
        (fixedBytes index).blue.toNat) := by
    rw [value]
    exact Raster.nearest_fixed index.toNat_lt
  simp only [Row.next, exactRow, still, Triple.zip, Triple.map, Carry.zero, Int.add_zero,
    corrected_zero, found, Int.sub_self, Carry.spread, Int.mul_zero, UInt8.ofNat_toNat,
    List.length_append, List.length_singleton, Array.replicate_succ, List.push_toArray]

/-- The errors left by a row are zero wherever they are looked at. -/
def NoError (errors : Array (Triple Int)) : Prop := ∀ i, errors.getD i ⟨0, 0, 0⟩ = ⟨0, 0, 0⟩

theorem noError_replicate (n : Nat) : NoError (Array.replicate n ⟨0, 0, 0⟩) := by
  intro i
  rw [Array.getD_eq_getD_getElem?, Array.getElem?_replicate]
  split <;> rfl

theorem row_of_fixed {index : Nat → UInt8} {above : Array (Triple Int)} (quiet : NoError above) :
    row Raster.fixedChart width (fun x => fixedBytes (index x)) above =
      exactRow ((List.range width).map index) := by
  induction width with
  | zero => rfl
  | succ n ih => rw [row_succ, ih, quiet, next_exactRow, List.range_succ, List.map_append,
      List.map_singleton]

/-- Rows of palette colours come to their indices and leave no error. -/
theorem above_of_fixed (index : Nat → Nat → UInt8) : ∃ errors, NoError errors ∧
    above Raster.fixedChart width height (fun x y => fixedBytes (index x y)) =
      (((List.range height).flatMap fun y => (List.range width).map fun x => index x y).toArray,
        errors) := by
  induction height with
  | zero => exact ⟨#[], fun i => by simp, rfl⟩
  | succ n ih =>
      obtain ⟨errors, quiet, value⟩ := ih
      refine ⟨Array.replicate (width + 1) ⟨0, 0, 0⟩, noError_replicate _, ?_⟩
      rw [above_succ, value]
      simp only [row_of_fixed quiet, exactRow, Row.tail, still, Carry.zero, List.range_succ,
        List.flatMap_append, List.flatMap_singleton, List.append_toArray, List.length_map,
        List.length_range, Array.replicate_succ]

/-- The rows of a picture of palette colours are its indices. -/
theorem rows_of_fixed (index : Nat → Nat → UInt8) :
    rows Raster.fixedChart width height (fun x y => fixedBytes (index x y)) =
      ((List.range height).flatMap fun y => (List.range width).map fun x => index x y).toArray := by
  obtain ⟨errors, -, value⟩ := @above_of_fixed width height index
  rw [rows_eq_above, value]

/-- Rows of one length after each other, read at a row and a place in it. -/
theorem getElem?_flatMap_rows {α : Type} (f : Nat → Nat → α) {x y : Nat} (hx : x < width)
    (hy : y < height) :
    ((List.range height).flatMap fun y => (List.range width).map fun x => f x y)[y * width + x]? =
      some (f x y) := by
  induction height with
  | zero => omega
  | succ n ih =>
      have size : ((List.range n).flatMap fun y => (List.range width).map fun x => f x y).length =
          n * width := by simp
      rw [List.range_succ, List.flatMap_append, List.flatMap_singleton]
      rcases Nat.lt_or_ge y n with before | last
      · have inside : y * width + x < n * width := by
          calc y * width + x < y * width + width := by omega
            _ = (y + 1) * width := by rw [Nat.succ_mul]
            _ ≤ n * width := Nat.mul_le_mul_right _ before
        rw [List.getElem?_append_left (by rwa [size]), ih before]
      · obtain rfl : y = n := by omega
        rw [List.getElem?_append_right (by rw [size]; omega), size]
        simp [hx]

end Dither

namespace Raster

/-- Reducing a picture looks at its size and its colours alone. -/
theorem dithered_congr {r s : Raster} (palette : Palette) (chart : Palette.Chart)
    (width : r.width = s.width) (height : r.height = s.height)
    (color : ∀ x y c, x < r.width → y < r.height → c < 3 → r.byteAt x y c = s.byteAt x y c) :
    r.dithered palette chart = s.dithered palette chart := by
  have rows : Dither.rows chart r.width r.height
      (fun x y => ⟨r.byteAt x y 0, r.byteAt x y 1, r.byteAt x y 2⟩) =
      Dither.rows chart r.width r.height
        (fun x y => ⟨s.byteAt x y 0, s.byteAt x y 1, s.byteAt x y 2⟩) := by
    apply Dither.rows_congr
    intro x hx y hy
    rw [color x y 0 hx hy (by omega), color x y 1 hx hy (by omega), color x y 2 hx hy (by omega)]
  unfold dithered
  rw [rows, width, height]

/-- The picture of the indices given, in the fixed palette. -/
def ofIndices (width height : Nat) (index : Nat → Nat → UInt8) : Raster :=
  { tabulate .indexed width height fun x y _ => index x y with palette := .fixed }

theorem byteAt_ofIndices {width height x y : Nat} (index : Nat → Nat → UInt8) (hx : x < width)
    (hy : y < height) : (ofIndices width height index).byteAt x y 0 = index x y :=
  byteAt_tabulate (f := fun x y _ => index x y) hx hy (Mode.bytes_pos .indexed)

/-- A picture of palette colours is reduced to their indices, exactly. -/
theorem dithered_of_fixed {r : Raster} (index : Nat → Nat → UInt8)
    (color : ∀ x y, x < r.width → y < r.height →
      (r.byteAt x y 0, r.byteAt x y 1, r.byteAt x y 2) = Palette.fixed.color (index x y)) :
    r.dithered .fixed fixedChart = ofIndices r.width r.height index := by
  have rows : Dither.rows fixedChart r.width r.height
      (fun x y => ⟨r.byteAt x y 0, r.byteAt x y 1, r.byteAt x y 2⟩) =
      Dither.rows fixedChart r.width r.height (fun x y => Dither.fixedBytes (index x y)) := by
    apply Dither.rows_congr
    intro x hx y hy
    rw [Dither.fixedBytes, ← color x y hx hy]
  have indices : tabulate .indexed r.width r.height (fun x y _ =>
      (Dither.rows fixedChart r.width r.height
        fun x y => ⟨r.byteAt x y 0, r.byteAt x y 1, r.byteAt x y 2⟩).getD (y * r.width + x) 0) =
      tabulate .indexed r.width r.height fun x y _ => index x y := by
    apply tabulate_congr
    intro x y _ hx hy _
    rw [rows, Dither.rows_of_fixed, Array.getD_eq_getD_getElem?, List.getElem?_toArray,
      Dither.getElem?_flatMap_rows index hx hy, Option.getD_some]
  exact congrArg (fun t : Raster => { t with palette := Palette.fixed }) indices

/-! ## Reducing -/

variable {r p : Raster}

theorem paletted_size {colors : Int} (made : r.paletted colors = .ok p) :
    p.width = r.width ∧ p.height = r.height := by
  obtain ⟨rgb, converted, made⟩ := Outcome.bind_eq_ok.mp made
  have same := toRgb_size converted
  split_ifs at made <;> obtain rfl := Except.ok.inj made <;> exact same

/-- An RGBA picture can always be reduced. -/
theorem paletted_of_rgba (isRgba : r.mode = .rgba) (colors : Int) :
    ∃ p, r.paletted colors = .ok p := by
  have convertible : r.isConvertible = true := by rw [isConvertible, isRgba]; rfl
  rw [paletted, toRgb, if_neg (by rw [isRgba]; decide), if_pos convertible, Outcome.ok_bind]
  split_ifs <;> exact ⟨_, rfl⟩

end Raster

end Darkroom
