/-
# Darkroom.Proofs.Resampling -- what a resample reads and what it leaves alone

A resampled byte is a mean over a window that lies inside the source, so it is
made of source bytes of its own channel alone (`mean_congr`).  The weights of a
window add up to one but for less than half a byte, so a channel that is the same
everywhere stays as it is (`mean_const`).

A resample keeps the kind of a picture (`resized_sameKind`) and gives it the size asked
for (`resized_size`).
-/
import Darkroom.Proofs.Outcome
import Darkroom.Proofs.Pixels
import Darkroom.Raster.Resample
import Mathlib.Algebra.Order.BigOperators.Group.List
import Mathlib.Tactic.IntervalCases
import Mathlib.Tactic.Linarith
import Mathlib.Tactic.Ring

namespace Darkroom

set_option autoImplicit false

namespace Window

theorem sumFrom_congr {sample other : Nat → Nat} (weights : List Int) (i : Nat) (sum : Int)
    (agree : ∀ k, i ≤ k → k < i + weights.length → sample k = other k) :
    sumFrom sample i weights sum = sumFrom other i weights sum := by
  induction weights generalizing i sum with
  | nil => rfl
  | cons w ws ih =>
      rw [sumFrom, sumFrom, agree i le_rfl (by simp)]
      apply ih
      intro k low high
      exact agree k (by omega) (by simp only [List.length_cons]; omega)

/-- A mean is made of the samples inside the window. -/
theorem mean_congr {n : Nat} (w : Window n) {sample other : Nat → Nat}
    (agree : ∀ k < n, sample k = other k) : w.mean sample = w.mean other := by
  have inside := w.inside
  have same := sumFrom_congr w.weights w.start 0
    (fun k _ high => agree k (by omega) : ∀ k, _ → _ → sample k = other k)
  simp only [mean, same]

theorem sumFrom_const (v : Nat) (weights : List Int) (i : Nat) (sum : Int) :
    sumFrom (fun _ => v) i weights sum = sum + totalWeight weights * v := by
  induction weights generalizing i sum with
  | nil => simp [sumFrom, totalWeight]
  | cons w ws ih =>
      have total : totalWeight (w :: ws) = w + totalWeight ws := rfl
      rw [sumFrom, ih, total]
      ring

/-- The mean of equal bytes is that byte: a byte times the 8000 units that the weights
may be off by is less than half a byte. -/
theorem mean_const {n : Nat} (w : Window n) (v : UInt8) : w.mean (fun _ => v.toNat) = v := by
  have near := w.near_unit
  have low : -8000 ≤ totalWeight w.weights - unitWeight := by omega
  have high : totalWeight w.weights - unitWeight ≤ 8000 := by omega
  have byte : (v.toNat : ℤ) < 256 := by exact_mod_cast v.toNat_lt
  have less : -2040000 ≤ (totalWeight w.weights - unitWeight) * v.toNat := by nlinarith
  have more : (totalWeight w.weights - unitWeight) * v.toNat ≤ 2040000 := by nlinarith
  rw [sub_mul, unitWeight] at less more
  have rounded : (0 + totalWeight w.weights * v.toNat + 0x200000) / 0x400000 = (v.toNat : ℤ) := by
    omega
  rw [mean, sumFrom_const, rounded, Int.toNat_natCast, Nat.min_eq_right (by omega), UInt8.ofNat_toNat]

/-- The window of result pixel `i` on an axis of `n` source pixels. -/
def placed (f : Filter) (s : Span) (n count i : Nat) (some_ : 0 < n) : Window n :=
  .ofFloat n (.of f s n count i) (min (i * n / count) (n - 1)) (by omega)

theorem mean_full {n : Nat} (w : Window n) : w.mean (fun _ => 255) = 255 := w.mean_const 255

end Window

/-- A pixel whose colour is multiplied by its alpha. -/
def Rgba.multiplied (p : Rgba) : Rgba :=
  ⟨Channel.scaleByte p.red p.alpha, Channel.scaleByte p.green p.alpha,
    Channel.scaleByte p.blue p.alpha, p.alpha⟩

namespace Raster

/-- A premultiplied RGBA picture, pixel by pixel. -/
theorem byteAt_premultiplied {r : Raster} (isRgba : r.mode = .rgba) {x y c : Nat} (hx : x < r.width)
    (hy : y < r.height) (hc : c < 4) :
    (r.premultiplied 3).byteAt x y c = (r.pixelAt x y).multiplied.channel c := by
  rw [premultiplied, byteAt_remap hx hy (isRgba ▸ hc), pixelAt_of_rgba isRgba]
  interval_cases c <;> rfl

variable (r : Raster) (f : Filter)

/-- Rows are resampled with one window a column of the result. -/
theorem resampleRows_eq (s : Span) (count : Nat) (wide : 0 < r.width) :
    r.resampleRows f s count = r.remap count r.height fun x y c =>
      (Window.placed f s r.width count x wide).mean fun k => (r.byteAt k y c).toNat := by
  rw [resampleRows, dif_pos wide]
  refine remap_congr fun x y c hx _ _ => ?_
  simp only [Array.getElem?_ofFn, dif_pos hx]
  rfl

/-- Columns are resampled with one window a row of the result. -/
theorem resampleColumns_eq (s : Span) (count : Nat) (tall : 0 < r.height) :
    r.resampleColumns f s count = r.remap r.width count fun x y c =>
      (Window.placed f s r.height count y tall).mean fun k => (r.byteAt x k c).toNat := by
  rw [resampleColumns, dif_pos tall]
  refine remap_congr fun x y c _ hy _ => ?_
  simp only [Array.getElem?_ofFn, dif_pos hy]
  rfl

/-! ## Kind and size -/

@[simp] theorem resampleRows_width (s : Span) (count : Nat) :
    (r.resampleRows f s count).width = count := by
  unfold resampleRows
  split <;> rfl

@[simp] theorem resampleRows_height (s : Span) (count : Nat) :
    (r.resampleRows f s count).height = r.height := by
  unfold resampleRows
  split <;> rfl

@[simp] theorem resampleColumns_width (s : Span) (count : Nat) :
    (r.resampleColumns f s count).width = r.width := by
  unfold resampleColumns
  split <;> rfl

@[simp] theorem resampleColumns_height (s : Span) (count : Nat) :
    (r.resampleColumns f s count).height = count := by
  unfold resampleColumns
  split <;> rfl

/-- An axis that is left out has the size asked for already. -/
theorem eq_of_isIdentity {s : Span} {n count : Nat} (same : s.isIdentity n count = true) :
    n = count := by
  simp only [Span.isIdentity, Bool.and_eq_true, beq_iff_eq] at same
  exact same.1.1

@[simp] theorem resampleBytes_width (region : Region) (width height : Nat) :
    (r.resampleBytes f region width height).width = width := by
  unfold resampleBytes
  dsimp only
  split_ifs with down across across
  · exact eq_of_isIdentity across
  · simp
  · simpa using eq_of_isIdentity across
  · simp

@[simp] theorem resampleBytes_height (region : Region) (width height : Nat) :
    (r.resampleBytes f region width height).height = height := by
  unfold resampleBytes
  dsimp only
  split_ifs with down across across
  · exact eq_of_isIdentity down
  · simpa using eq_of_isIdentity down
  · simp
  · simp

theorem sameKind_resampleRows (s : Span) (count : Nat) : (r.resampleRows f s count).SameKind r := by
  unfold resampleRows
  split <;> exact sameKind_remap _ _ _ _

theorem sameKind_resampleColumns (s : Span) (count : Nat) :
    (r.resampleColumns f s count).SameKind r := by
  unfold resampleColumns
  split <;> exact sameKind_remap _ _ _ _

theorem sameKind_resampleBytes (region : Region) (width height : Nat) :
    (r.resampleBytes f region width height).SameKind r := by
  have rows (s : Span) := sameKind_resampleRows r f s width
  unfold resampleBytes
  dsimp only
  split_ifs
  · exact .refl r
  · exact rows _
  · exact sameKind_resampleColumns r f _ _
  · exact (sameKind_resampleColumns _ f _ _).trans (rows _)

theorem resampleSamples_kind (region : Region) (width height : Nat) :
    (r.resampleSamples f region width height).SameKind r ∧
      (r.resampleSamples f region width height).width = width ∧
        (r.resampleSamples f region width height).height = height := by
  unfold resampleSamples
  dsimp only
  split_ifs with down across across
  · exact ⟨.refl r, eq_of_isIdentity across, eq_of_isIdentity down⟩
  · exact ⟨sameKind_remap _ _ _ _, rfl, eq_of_isIdentity down⟩
  · exact ⟨sameKind_remap _ _ _ _, eq_of_isIdentity across, rfl⟩
  · exact ⟨(sameKind_remap _ _ _ _).trans (sameKind_remap _ _ _ _), rfl, rfl⟩

/-- A picture is read at its own size. -/
theorem size_of_isWhole {r : Raster} {region : Region} {width height : Nat}
    (whole : r.isWhole region width height = true) : width = r.width ∧ height = r.height := by
  simp only [isWhole, Bool.and_eq_true, beq_iff_eq] at whole
  exact ⟨whole.1.1.1.1.1, whole.1.1.1.1.2⟩

theorem isWhole_congr {r s : Raster} (width : s.width = r.width) (height : s.height = r.height)
    (region : Region) (w h : Nat) : s.isWhole region w h = r.isWhole region w h := by
  simp only [isWhole, width, height]

theorem resampled_kind (region : Region) (width height : Nat) :
    (r.resampled f region width height).SameKind r ∧
      (r.resampled f region width height).width = width ∧
        (r.resampled f region width height).height = height := by
  unfold resampled
  split
  · rename_i whole
    obtain ⟨across, down⟩ := size_of_isWhole whole
    exact ⟨.refl r, across.symm, down.symm⟩
  · split
    · exact ⟨sameKind_remap _ _ _ _, rfl, rfl⟩
    · exact ⟨sameKind_remap _ _ _ _, rfl, rfl⟩
    · exact resampleSamples_kind r f region width height
    · exact resampleSamples_kind r f region width height
    · exact resampleSamples_kind r f region width height
    · split
      · rename_i alpha _
        have resampled := sameKind_resampleBytes (r.premultiplied alpha) f region width height
        refine ⟨(sameKind_remap _ _ _ _).trans (resampled.trans (sameKind_remap _ _ _ _)), ?_⟩
        simp [unpremultiplied]
      · exact ⟨sameKind_resampleBytes r f region width height, by simp⟩

/-- A picture of sides for which every resample has room. -/
structure IsShort (r : Raster) : Prop where
  narrow : r.width ≤ Span.roomyLength
  low : r.height ≤ Span.roomyLength

/-- There is room for the weights of short axes. -/
theorem IsShort.hasRoom {r : Raster} (short : r.IsShort) (f : Filter) (region : Region)
    {width height : Nat} (across : width ≤ Span.roomyLength) (down : height ≤ Span.roomyLength) :
    r.hasRoom f region width height = true := by
  have row : width ≤ longestRow := across.trans (by decide)
  have across := max_le short.narrow across
  have down := max_le short.low down
  unfold Raster.hasRoom
  split <;> simp [row, Span.hasRoom, across, down]

theorem hasRoom_congr {r s : Raster} (mode : s.mode = r.mode) (width : s.width = r.width)
    (height : s.height = r.height) (f : Filter) (region : Region) (w h : Nat) :
    s.hasRoom f region w h = r.hasRoom f region w h := by
  rw [hasRoom, hasRoom, mode, width, height]

/-- A resample keeps the kind of a picture. -/
theorem resized_sameKind {r : Raster} {f : Filter} {region : Region} {w h : Number} {p : Raster}
    (made : r.resized f region w h = .ok p) : p.SameKind r := by
  unfold resized at made
  split at made
  · split_ifs at made <;> obtain rfl := Except.ok.inj made
    · exact .refl r
    · exact (resampled_kind r f region _ _).1
  · split_ifs at made
    obtain rfl := Except.ok.inj made
    exact .refl r

/-- A size in whole numbers that was accepted is the size of the result. -/
theorem resized_size {r : Raster} {f : Filter} {region : Region} {w h : ℤ} {p : Raster}
    (made : r.resized f region (.int w) (.int h) = .ok p) :
    (p.width : ℤ) = w ∧ (p.height : ℤ) = h := by
  simp only [resized] at made
  split_ifs at made with same large empty room
  · obtain rfl := Except.ok.inj made
    exact ⟨same.1.symm, same.2.1.symm⟩
  · obtain rfl := Except.ok.inj made
    obtain ⟨-, width, height⟩ := resampled_kind r f region w.toNat h.toNat
    exact ⟨by omega, by omega⟩

/-- At another size a picture is resampled, or there is no room for that. -/
theorem resized_of_other (r : Raster) (f : Filter) (region : Region) {w h : ℤ} (wide : 1 ≤ w)
    (tall : 1 ≤ h) (narrow : w ≤ largestSide) (low : h ≤ largestSide)
    (other : ¬(w = r.width ∧ h = r.height)) :
    r.resized f region (.int w) (.int h) =
      if r.hasRoom f region w.toNat h.toNat then .ok (r.resampled f region w.toNat h.toNat)
      else .error .outOfRoom := by
  have small : ¬((w.natAbs : ℤ) > largestSide ∨ (h.natAbs : ℤ) > largestSide) := by omega
  have real : ¬(w < 1 ∨ h < 1) := by omega
  rw [resized, if_neg fun same => other ⟨same.1, same.2.1⟩, if_neg small, if_neg real]

/-- A size that a picture can have is accepted, if there is room. -/
theorem resized_found (r : Raster) (f : Filter) (region : Region) {w h : ℤ} (wide : 1 ≤ w)
    (tall : 1 ≤ h) (narrow : w ≤ largestSide) (low : h ≤ largestSide) :
    Outcome.RoomAllows (r.IsShort ∧ w ≤ Span.roomyLength ∧ h ≤ Span.roomyLength)
      (r.resized f region (.int w) (.int h)) := by
  have small : ¬((w.natAbs : ℤ) > largestSide ∨ (h.natAbs : ℤ) > largestSide) := by omega
  have real : ¬(w < 1 ∨ h < 1) := by omega
  rw [resized, if_neg small, if_neg real]
  split
  · exact .ok _
  · cases room : r.hasRoom f region w.toNat h.toNat
    · refine .inr ⟨rfl, fun ⟨short, across, down⟩ => ?_⟩
      rw [short.hasRoom f region (by omega) (by omega)] at room
      cases room
    · exact .ok _

/-- Whether a size is accepted hangs on the mode and the size of the picture alone. -/
theorem resized_accepts {r s : Raster} {f : Filter} {region : Region} {w h : Number} {p : Raster}
    (mode : s.mode = r.mode) (width : s.width = r.width) (height : s.height = r.height)
    (made : r.resized f region w h = .ok p) :
    ∃ q, s.resized f region w h = .ok q ∧ q.width = p.width ∧ q.height = p.height := by
  unfold resized at made ⊢
  simp only [hasRoom_congr mode width height]
  rw [isWhole_congr width height, width, height]
  split at made
  · rename_i w h
    split_ifs at made with same large empty room <;> obtain rfl := Except.ok.inj made
    · exact ⟨s, if_pos same, width, height⟩
    · refine ⟨s.resampled f region w.toNat h.toNat, ?_, ?_, ?_⟩
      · rw [if_neg same, if_neg large, if_neg empty, if_pos room]
      · rw [(resampled_kind s f region _ _).2.1, (resampled_kind r f region _ _).2.1]
      · rw [(resampled_kind s f region _ _).2.2, (resampled_kind r f region _ _).2.2]
  · split_ifs at made with same
    obtain rfl := Except.ok.inj made
    exact ⟨s, by rw [if_pos same], width, height⟩

end Raster

end Darkroom
