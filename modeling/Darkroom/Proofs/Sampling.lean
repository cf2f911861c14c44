/-
# Darkroom.Proofs.Sampling -- what is looked at of a picture

The colour of a picture is looked for in a small sample of it.  The sample has a size,
however long and narrow the picture is and whatever the edge that it has to fit
(`sampleSize_found`); a picture that fits already is its own sample.  Of the pixels of
the sample those are looked at that can be seen, or all of them where none can, so
something is looked at wherever there are pixels (`seenPixels_ne_empty`), and it has a
dominant colour if there was room for the sample (`ofRaster_found`).
-/
import Darkroom.Color.Dominant
import Darkroom.Proofs.Fitting
import Darkroom.Proofs.Resampling

namespace Darkroom.Dominant

set_option autoImplicit false

open Number

/-! ## The size of the sample -/

/-- A value within a whole number is rounded to a side within it. -/
theorem roundBy_found {v : Double} {q : ℚ} {most : ℕ} (value : v.toRat? = some q)
    (nonneg : 0 ≤ q) (le : q ≤ most) (some_ : 1 ≤ most) {key : ℤ → Outcome Double}
    (keys : ∀ n : ℕ, n ≤ most → ∃ x, key n = .ok x) :
    ∃ side : ℤ, roundBy v key = .ok side ∧ 1 ≤ side ∧ side ≤ most := by
  have low : 0 ≤ q.floor ∧ q.floor ≤ most := by
    refine ⟨Rat.le_floor_iff.mpr (by exact_mod_cast nonneg), ?_⟩
    exact_mod_cast (Rat.floor_le q).trans le
  have high : 0 ≤ -(-q).floor ∧ -(-q).floor ≤ most := by
    have below : ((-q).floor : ℚ) ≤ -q := Rat.floor_le (-q)
    have above : -(most : ℤ) ≤ (-q).floor := Rat.le_floor_iff.mpr (by push_cast; linarith)
    have sign : (-q).floor ≤ 0 := by exact_mod_cast below.trans (neg_nonpos.mpr nonneg)
    exact ⟨by omega, by omega⟩
  obtain ⟨x, keyHigh⟩ := keys (-(-q).floor).toNat (by omega)
  obtain ⟨y, keyLow⟩ := keys q.floor.toNat (by omega)
  rw [Int.toNat_of_nonneg high.1] at keyHigh
  rw [Int.toNat_of_nonneg low.1] at keyLow
  simp only [roundBy, value, Option.getD_some, keyHigh, keyLow, Outcome.ok_bind]
  split
  · exact ⟨_, rfl, le_max_left _ _, max_le (by omega) high.2⟩
  · exact ⟨_, rfl, le_max_left _ _, max_le (by omega) low.2⟩

/-- The ratio of two sides is found. -/
theorem div_found {m n : ℕ} (positive : 0 < n) (small : m < 2 ^ 31) :
    Outcome.ofArithmetic ((Number.int m).div (.int n)) =
      .ok (.finite (nearest ((m : ℚ) / n))) := by
  have fits := div_le_largestDouble positive (small.le.trans (by norm_num) : m ≤ 2 ^ 53)
  rw [div_natCast_of_le positive fits, Outcome.ofArithmetic_ok]

/-- A picture of an ordinary size has a sample within any edge. -/
theorem sampleSize_found {width height edge : ℕ} (wide : 0 < width) (tall : 0 < height)
    (narrow : width < 2 ^ 31) (low : height < 2 ^ 31) (some_ : 1 ≤ edge) (short : edge < 2 ^ 31) :
    ∃ size : ℤ × ℤ, sampleSize width height edge = .ok size ∧
      (1 ≤ size.1 ∧ size.1 ≤ edge) ∧ 1 ≤ size.2 ∧ size.2 ≤ edge := by
  have exact : edge ≤ 2 ^ 53 := short.le.trans (by norm_num)
  have side : Double.ofRat ((edge : ℤ) : ℚ) = .finite (edge : ℚ) := by
    have sign : decide (((edge : ℤ) : ℚ) < 0) = false := decide_eq_false (by simp)
    rw [Double.ofRat, sign, Int.cast_natCast,
      ofExact_found (Nat.cast_nonneg edge) le_rfl exact,
      nearest_of_representable (.natCast exact)]
  have edge1 : (1 : ℤ) ≤ edge := by exact_mod_cast some_
  have square := div_found some_ short
  have one : nearest ((edge : ℚ) / edge) = 1 := by
    rw [div_self (by positivity)]
    decide +kernel
  rw [one] at square
  have positive := nearest_div_pos wide tall low
  generalize ratio : nearest ((width : ℚ) / height) = q at positive
  simp only [sampleSize, div_found tall narrow, ratio, square, side, Outcome.ok_bind]
  split
  case isTrue flat =>
    have within : (edge : ℚ) * q ≤ edge := by
      have le : ¬(1 : ℚ) < q := by simpa [Double.le] using flat
      exact mul_le_of_le_one_right (by positivity) (not_lt.mp le)
    obtain ⟨x, value, nonneg, le⟩ := toRat?_ofExact_found (by positivity) within exact
    rw [← mul_finite positive.le] at value
    refine Outcome.bind_found (roundBy_found value nonneg le some_ fun n small => ?_)
      fun w sized => ⟨_, rfl, sized, edge1, le_rfl⟩
    rw [div_found some_ (by omega)]
    exact ⟨_, rfl⟩
  case isFalse long =>
    have within : (edge : ℚ) / q ≤ edge := by
      have lt : (1 : ℚ) < q := by simpa [Double.le] using long
      exact div_le_self (by positivity) lt.le
    obtain ⟨x, value, nonneg, le⟩ := toRat?_ofExact_found (by positivity) within exact
    rw [div_real exact positive, Outcome.ofArithmetic_ok, Outcome.ok_bind]
    refine Outcome.bind_found (roundBy_found value nonneg le some_ fun n small => ?_)
      fun h sized => ⟨_, rfl, ⟨edge1, le_rfl⟩, sized⟩
    split
    · exact ⟨_, rfl⟩
    · rw [div_found (by omega) short]
      exact ⟨_, rfl⟩

/-! ## The sample -/

variable {r p : Raster} {edge : ℤ}

/-- A picture that fits the edge is looked at as it is. -/
theorem sample_of_fits (converted : r.toRgba = .ok p) (narrow : (r.width : ℤ) ≤ edge)
    (low : (r.height : ℤ) ≤ edge) : sample r edge = .ok p := by
  obtain ⟨width, height⟩ := Raster.toRgba_size converted
  rw [sample, converted, Outcome.ok_bind, if_neg (by rw [width, height]; simp [narrow, low])]
  rfl

/-- A picture that does not fit the edge is made smaller. -/
theorem sample_of_exceeds (converted : r.toRgba = .ok p)
    (exceeds : ¬((r.width : ℤ) ≤ edge ∧ (r.height : ℤ) ≤ edge)) :
    sample r edge = (do
      let (w, h) ← sampleSize r.width r.height edge
      p.resized .bilinear (.whole p) (.int w) (.int h)) := by
  obtain ⟨width, height⟩ := Raster.toRgba_size converted
  have large : (max p.width p.height : ℤ) > edge := by
    rw [width, height]
    by_contra within
    exact exceeds (by omega)
  rw [sample, converted, Outcome.ok_bind, if_pos large, width, height]

/-- The sample of a picture of an ordinary size that does not fit the edge, if there is
room for it. -/
theorem sample_resampled (converted : r.toRgba = .ok p) (wide : 0 < r.width) (tall : 0 < r.height)
    (narrow : r.width < 2 ^ 31) (low : r.height < 2 ^ 31) (some_ : 1 ≤ edge)
    (exceeds : ¬((r.width : ℤ) ≤ edge ∧ (r.height : ℤ) ≤ edge)) :
    ∃ w h : ℕ, 0 < w ∧ 0 < h ∧ ¬(w = p.width ∧ h = p.height) ∧
      (sample r edge = .ok (p.resampled .bilinear (.whole p) w h) ∨
        sample r edge = .error .outOfRoom ∧ ¬r.IsShort) := by
  lift edge to ℕ using by omega
  obtain ⟨width, height⟩ := Raster.toRgba_size converted
  have largest : Raster.largestSide = 2 ^ 31 - 1 := rfl
  obtain ⟨⟨w, h⟩, sized, across, down⟩ :=
    sampleSize_found wide tall narrow low (by exact_mod_cast some_) (by omega)
  dsimp only at across down
  have other : ¬(w = p.width ∧ h = p.height) := by
    rw [width, height]
    omega
  refine ⟨w.toNat, h.toNat, by omega, by omega, by omega, ?_⟩
  rw [sample_of_exceeds converted exceeds, sized, Outcome.ok_bind]
  dsimp only
  rw [p.resized_of_other .bilinear (.whole p) across.1 down.1 (by omega) (by omega) other]
  cases room : p.hasRoom .bilinear (.whole p) w.toNat h.toNat
  case true => exact .inl rfl
  case false =>
    -- What does not fit the edge is longer than the sample, so short sides stay short.
    refine .inr ⟨rfl, fun ⟨short, flat⟩ => ?_⟩
    have shortP : p.IsShort := ⟨width ▸ short, height ▸ flat⟩
    rw [shortP.hasRoom .bilinear _ (by omega) (by omega)] at room
    cases room

/-- A picture of an ordinary size has a sample, if there is room for it, and that has
pixels. -/
theorem sample_found (colours : r.isConvertible = true) (wide : 0 < r.width)
    (tall : 0 < r.height) (narrow : r.width < 2 ^ 31) (low : r.height < 2 ^ 31)
    (some_ : 1 ≤ edge) : Outcome.RoomAllows r.IsShort (sample r edge) ∧
      ∀ p, sample r edge = .ok p → 0 < p.width ∧ 0 < p.height := by
  obtain ⟨rgba, converted⟩ := r.toRgba_found colours
  by_cases fits : (r.width : ℤ) ≤ edge ∧ (r.height : ℤ) ≤ edge
  case pos =>
    obtain ⟨width, height⟩ := Raster.toRgba_size converted
    rw [sample_of_fits converted fits.1 fits.2]
    refine ⟨.ok rgba, fun p same => ?_⟩
    obtain rfl := Except.ok.inj same
    exact ⟨width ▸ wide, height ▸ tall⟩
  case neg =>
    obtain ⟨w, h, w0, h0, -, sampled | ⟨full, long⟩⟩ :=
      sample_resampled converted wide tall narrow low some_ fits
    · obtain ⟨-, width, height⟩ := rgba.resampled_kind .bilinear (.whole rgba) w h
      rw [sampled]
      refine ⟨.ok _, fun p same => ?_⟩
      obtain rfl := Except.ok.inj same
      exact ⟨by rwa [width], by rwa [height]⟩
    · rw [full]
      exact ⟨.inr ⟨rfl, long⟩, nofun⟩

/-! ## The pixels that are looked at -/

/-- The pixels of a picture in a row. -/
def pixelRow (r : Raster) : Array Rgba :=
  Array.ofFn (n := r.width * r.height) fun i => r.pixelAt (i.val % r.width) (i.val / r.width)

theorem mem_pixelRow {q : Rgba} :
    q ∈ pixelRow r → ∃ x y, x < r.width ∧ y < r.height ∧ r.pixelAt x y = q := by
  rw [pixelRow, Array.mem_ofFn]
  rintro ⟨i, rfl⟩
  have wide : 0 < r.width := Nat.pos_of_ne_zero fun none_ => by
    have inside := i.isLt
    simp [none_] at inside
  exact ⟨_, _, Nat.mod_lt _ wide, Nat.div_lt_of_lt_mul i.isLt, rfl⟩

/-- The pixels that are looked at. -/
def seenPixels (r : Raster) : Array Rgba :=
  let visible := (pixelRow r).filter (·.alpha != 0)
  if visible.isEmpty then pixelRow r else visible

theorem visibleColors_eq (r : Raster) :
    visibleColors r = (seenPixels r).map fun p => ⟨p.red, p.green, p.blue⟩ := rfl

theorem mem_pixelRow_of_seen {q : Rgba} (seen : q ∈ seenPixels r) : q ∈ pixelRow r := by
  unfold seenPixels at seen
  dsimp only at seen
  split_ifs at seen
  · exact seen
  · exact (Array.mem_filter.mp seen).1

theorem seenPixels_ne_empty (some_ : pixelRow r ≠ #[]) : seenPixels r ≠ #[] := by
  unfold seenPixels
  dsimp only
  split_ifs with invisible
  · exact some_
  · exact fun empty => invisible (by rw [empty]; rfl)

theorem visibleColors_ne_empty (wide : 0 < r.width) (tall : 0 < r.height) :
    visibleColors r ≠ #[] := by
  have some_ : pixelRow r ≠ #[] := by
    intro none_
    have size := congrArg Array.size none_
    rw [pixelRow, Array.size_ofFn] at size
    exact absurd size (Nat.mul_pos wide tall).ne'
  rw [visibleColors_eq, Ne, Array.map_eq_empty_iff]
  exact seenPixels_ne_empty some_

/-! ## The answer -/

/-- Some colours have a dominant one among any number of groups. -/
theorem answer_found {colors : Array Rgb} {clusters : ℤ} (some_ : colors ≠ #[])
    (positive : 1 ≤ clusters) : ∃ a, answer colors clusters = .ok a := by
  unfold answer
  dsimp only
  split
  · rw [if_neg (by simpa using some_)]
    exact ⟨_, rfl⟩
  · rw [if_neg (by omega)]
    exact ⟨_, rfl⟩

/-- A picture of an ordinary size has a dominant colour, if there is room to find it. -/
theorem ofRaster_found {clusters : ℤ} (positive : 1 ≤ clusters)
    (colours : r.isConvertible = true) (wide : 0 < r.width) (tall : 0 < r.height)
    (narrow : r.width < 2 ^ 31) (low : r.height < 2 ^ 31) (some_ : 1 ≤ edge) :
    Outcome.RoomAllows r.IsShort (ofRaster r clusters edge) := by
  obtain ⟨found, pixels⟩ := sample_found colours wide tall narrow low some_
  refine found.bind fun p sampled => ?_
  obtain ⟨wide, tall⟩ := pixels p sampled
  exact .inl (answer_found (visibleColors_ne_empty wide tall) positive)

end Darkroom.Dominant
