/-
# Darkroom.Proofs.Frequent -- few colours are counted

Sorted numbers are cut into runs, one a number and as long as its count (`mem_runs`),
in the order of the numbers (`sorted_runs`), and of the longest runs the first is found
(`mostFrequent_spec`).  The number of a colour orders colours by red, green and blue
(`code_le_iff`), so what is found is the colour of highest multiplicity, the first of
several (`IsMode`).  Multiplicities do not see where a pixel lies: the answer is a
function of the pixels as a multiset (`ofRaster_few`), and an orientation keeps that
(`pixels_laid`).  `few_colors_exact` says both.
-/
import Darkroom.Proofs.Choosing
import Darkroom.Proofs.Orientation
import Darkroom.Proofs.Running
import Mathlib.Data.Fintype.BigOperators
import Mathlib.Data.Multiset.Count
import Mathlib.Logic.Equiv.Fin.Basic

namespace Darkroom

set_option autoImplicit false

/-! ## Runs of a sorted list -/

namespace Dominant

section Runs

variable {c n k m : ℕ} {rest xs : List ℕ} {done : List (ℕ × ℕ)}

theorem count_cons_eq : (c :: rest).count k = (if k = c then 1 else 0) + rest.count k := by
  by_cases same : k = c
  · rw [same, List.count_cons_self, if_pos rfl, Nat.add_comm]
  · rw [List.count_cons_of_ne (Ne.symm same), if_neg same, Nat.zero_add]

/-- From a run of `n` times `c` on, a sorted list is cut into the numbers that it has,
each with its count. -/
theorem mem_runs_go (sorted : (c :: rest).Pairwise (· ≤ ·)) :
    (k, m) ∈ runs.go c n rest done ↔
      (k, m) ∈ done ∨ k ∈ c :: rest ∧ m = (if k = c then n else 0) + rest.count k := by
  induction rest generalizing c n done with
  | nil =>
      by_cases same : k = c <;> simp [runs.go, same, or_comm]
  | cons d rest ih =>
      obtain ⟨least, later⟩ := List.pairwise_cons.mp sorted
      rw [runs.go]
      split
      case isTrue same =>
        subst same
        rw [ih later]
        by_cases same : k = d
        · subst same
          simp [Nat.add_assoc, Nat.add_comm 1]
        · simp [same, Ne.symm same]
      case isFalse other =>
        -- The run is over: `c` does not come again.
        have gone : c ∉ d :: rest := by
          intro member
          have below : c < d := lt_of_le_of_ne (least d List.mem_cons_self) (Ne.symm other)
          rcases List.mem_cons.mp member with rfl | member
          · exact other rfl
          · exact absurd ((List.pairwise_cons.mp later).1 c member) (not_le.mpr below)
        rw [ih later]
        by_cases same : k = c
        · subst same
          simp [gone, or_comm, List.count_eq_zero_of_not_mem gone]
        · simp [same, count_cons_eq]

theorem sorted_runs_go (sorted : (c :: rest).Pairwise (· ≤ ·)) (below : ∀ e ∈ done, e.1 < c)
    (falling : done.Pairwise fun e f => f.1 < e.1) :
    (runs.go c n rest done).Pairwise fun e f => e.1 < f.1 := by
  induction rest generalizing c n done with
  | nil =>
      rw [runs.go, List.pairwise_reverse]
      exact List.pairwise_cons.mpr ⟨below, falling⟩
  | cons d rest ih =>
      obtain ⟨least, later⟩ := List.pairwise_cons.mp sorted
      rw [runs.go]
      split
      case isTrue same =>
        subst same
        exact ih later below falling
      case isFalse other =>
        have above : c < d := lt_of_le_of_ne (least d List.mem_cons_self) (Ne.symm other)
        refine ih later (fun e member => ?_) (List.pairwise_cons.mpr ⟨below, falling⟩)
        rcases List.mem_cons.mp member with rfl | member
        · exact above
        · exact (below e member).trans above

/-- The runs of a sorted list are its numbers, each with its count. -/
theorem mem_runs (sorted : xs.Pairwise (· ≤ ·)) : (k, m) ∈ runs xs ↔ k ∈ xs ∧ m = xs.count k := by
  cases xs with
  | nil => simp [runs]
  | cons c rest =>
      rw [runs, mem_runs_go sorted, count_cons_eq]
      simp

/-- The runs are in the order of their numbers. -/
theorem sorted_runs (sorted : xs.Pairwise (· ≤ ·)) :
    (runs xs).Pairwise fun e f => e.1 < f.1 := by
  cases xs with
  | nil => exact List.Pairwise.nil
  | cons c rest => exact sorted_runs_go sorted (by simp) List.Pairwise.nil

end Runs

/-! ## The first of the longest runs -/

/-- No number is counted more often than that of `b`, and none before it as often. -/
def Leads (b : ℕ × ℕ) (counts : List (ℕ × ℕ)) : Prop :=
  ∀ e ∈ counts, e.2 < b.2 ∨ e.2 = b.2 ∧ b.1 ≤ e.1

/-- The leader so far, or who takes the lead from it. -/
theorem foldl_leads {best : ℕ × ℕ} {counts : List (ℕ × ℕ)}
    (sorted : (best :: counts).Pairwise fun e f => e.1 < f.1) :
    ∃ b ∈ best :: counts,
      counts.foldl (fun best c => if best.2 < c.2 then c else best) best = b ∧
        Leads b (best :: counts) := by
  induction counts generalizing best with
  | nil => exact ⟨best, List.mem_cons_self, rfl, by simp [Leads]⟩
  | cons next rest ih =>
      obtain ⟨first, later⟩ := List.pairwise_cons.mp sorted
      rw [List.foldl_cons]
      split
      case isTrue more =>
        obtain ⟨b, member, found, leads⟩ := ih later
        refine ⟨b, List.mem_cons_of_mem _ member, found, fun e inside => ?_⟩
        rcases List.mem_cons.mp inside with rfl | inside
        · have next_le := leads next List.mem_cons_self
          exact .inl (by omega)
        · exact leads e inside
      case isFalse less =>
        have skipped : (best :: rest).Pairwise fun e f => e.1 < f.1 :=
          sorted.sublist (.cons_cons best (List.sublist_cons_self next rest))
        obtain ⟨b, member, found, leads⟩ := ih skipped
        refine ⟨b, ?_, found, fun e inside => ?_⟩
        · rcases List.mem_cons.mp member with rfl | member
          · exact List.mem_cons_self
          · exact List.mem_cons_of_mem _ (List.mem_cons_of_mem _ member)
        · rcases List.mem_cons.mp inside with rfl | inside
          · exact leads e List.mem_cons_self
          · rcases List.mem_cons.mp inside with rfl | inside
            · have best_le := leads best List.mem_cons_self
              have after := first e List.mem_cons_self
              omega
            · exact leads e (List.mem_cons_of_mem _ inside)

theorem mostFrequent_spec {counts : List (ℕ × ℕ)} (some_ : counts ≠ [])
    (sorted : counts.Pairwise fun e f => e.1 < f.1) (positive : ∀ e ∈ counts, 0 < e.2) :
    ∃ b ∈ counts, mostFrequent counts = b.1 ∧ Leads b counts := by
  obtain ⟨first, rest, rfl⟩ := List.exists_cons_of_ne_nil some_
  obtain ⟨b, member, found, leads⟩ := foldl_leads sorted
  refine ⟨b, member, ?_, leads⟩
  rw [mostFrequent, List.foldl_cons, if_pos (positive first List.mem_cons_self), found]

end Dominant

/-! ## The order of colours -/

/-- Not after in the order of red, then green, then blue. -/
def Rgb.LexLe (c d : Rgb) : Prop :=
  c.red < d.red ∨ c.red = d.red ∧ (c.green < d.green ∨ c.green = d.green ∧ c.blue ≤ d.blue)

/-- The colour of highest multiplicity, and of those of the same one the first. -/
structure IsMode (colors : Multiset Rgb) (c : Rgb) : Prop where
  occurs : c ∈ colors
  leads : ∀ d ∈ colors, colors.count d < colors.count c ∨
    colors.count d = colors.count c ∧ c.LexLe d

namespace Dominant

theorem ofNat_code (c : Rgb) : Rgb.ofNat (code c) = c := by
  obtain ⟨red, green, blue⟩ := c
  have r := red.toNat_lt
  have g := green.toNat_lt
  have b := blue.toNat_lt
  simp only [Rgb.ofNat, code, Rgb.mk.injEq, ← UInt8.toNat_inj, UInt8.toNat_ofNat']
  omega

theorem code_injective : Function.Injective code := Function.LeftInverse.injective ofNat_code

theorem code_le_iff {c d : Rgb} : code c ≤ code d ↔ c.LexLe d := by
  have green := c.green.toNat_lt
  have blue := c.blue.toNat_lt
  have green' := d.green.toNat_lt
  have blue' := d.blue.toNat_lt
  simp only [code, Rgb.LexLe, UInt8.lt_iff_toNat_lt, UInt8.le_iff_toNat_le, ← UInt8.toNat_inj]
  omega

end Dominant

theorem Rgb.LexLe.antisymm {c d : Rgb} (one : c.LexLe d) (other : d.LexLe c) : c = d :=
  Dominant.code_injective
    (le_antisymm (Dominant.code_le_iff.mpr one) (Dominant.code_le_iff.mpr other))

/-- Colours have one mode at most. -/
theorem IsMode.unique {colors : Multiset Rgb} {c d : Rgb} (one : IsMode colors c)
    (other : IsMode colors d) : c = d := by
  rcases one.leads d other.occurs with fewer | ⟨same, before⟩
  · rcases other.leads c one.occurs with fewer' | ⟨same, -⟩ <;> omega
  · rcases other.leads c one.occurs with fewer | ⟨-, after⟩
    · omega
    · exact before.antisymm after

/-! ## Counting colours -/

namespace Dominant

variable {colors : Array Rgb} {clusters : ℤ}

theorem sorted_codes (colors : Array Rgb) :
    ((colors.toList.map code).mergeSort (· ≤ ·)).Pairwise (· ≤ ·) :=
  List.pairwise_mergeSort' (· ≤ ·) _

/-- The tally does not depend on the order of the colours. -/
theorem tally_perm {other : Array Rgb} (same : colors.toList.Perm other.toList) :
    tally colors = tally other := by
  refine congrArg runs (List.Perm.eq_of_pairwise' (sorted_codes colors) (sorted_codes other) ?_)
  exact (List.mergeSort_perm _ _).trans ((same.map code).trans (List.mergeSort_perm _ _).symm)

/-- The tally lists the colours, each with its count. -/
theorem mem_tally {k m : ℕ} :
    (k, m) ∈ tally colors ↔ ∃ c ∈ colors.toList, k = code c ∧ m = colors.toList.count c := by
  rw [tally, mem_runs (sorted_codes colors), List.mem_mergeSort, List.mem_map,
    (List.mergeSort_perm _ _).count_eq]
  constructor
  · rintro ⟨⟨c, inside, rfl⟩, rfl⟩
    exact ⟨c, inside, rfl, List.count_map_of_injective _ _ code_injective c⟩
  · rintro ⟨c, inside, rfl, rfl⟩
    exact ⟨⟨c, inside, rfl⟩, (List.count_map_of_injective _ _ code_injective c).symm⟩

/-- It has one entry a colour. -/
theorem length_tally : (tally colors).length = (colors.toList : Multiset Rgb).toFinset.card := by
  have distinct : ((tally colors).map Prod.fst).Nodup :=
    List.pairwise_map.mpr ((sorted_runs (sorted_codes colors)).imp ne_of_lt)
  have keys : ((tally colors).map Prod.fst).toFinset =
      (colors.toList : Multiset Rgb).toFinset.image code := by
    ext k
    simp only [List.mem_toFinset, List.mem_map, Prod.exists, exists_and_right, exists_eq_right,
      mem_tally, Finset.mem_image, Multiset.mem_toFinset, Multiset.mem_coe]
    constructor
    · rintro ⟨m, c, inside, rfl, -⟩
      exact ⟨c, inside, rfl⟩
    · rintro ⟨c, inside, rfl⟩
      exact ⟨_, c, inside, rfl, rfl⟩
  rw [← Finset.card_image_of_injective _ code_injective, ← keys, List.toFinset_card_of_nodup distinct,
    List.length_map]

/-- The most frequent of some colours is their mode. -/
theorem isMode_mostFrequent (some_ : colors ≠ #[]) :
    IsMode colors.toList (Rgb.ofNat (mostFrequent (tally colors))) := by
  have counted : tally colors ≠ [] := by
    intro none_
    obtain ⟨c, inside⟩ := List.exists_mem_of_ne_nil _ (by simpa using some_ : colors.toList ≠ [])
    have listed := mem_tally.mpr ⟨c, inside, rfl, rfl⟩
    rw [none_] at listed
    cases listed
  have positive : ∀ e ∈ tally colors, 0 < e.2 := by
    rintro ⟨k, m⟩ listed
    obtain ⟨c, inside, -, rfl⟩ := mem_tally.mp listed
    exact List.count_pos_iff.mpr inside
  obtain ⟨⟨k, m⟩, listed, found, leads⟩ :=
    mostFrequent_spec counted (sorted_runs (sorted_codes colors)) positive
  obtain ⟨c, inside, rfl, rfl⟩ := mem_tally.mp listed
  rw [found, ofNat_code]
  refine ⟨inside, fun d other => ?_⟩
  simpa only [Multiset.coe_count, code_le_iff] using
    leads _ (mem_tally.mpr ⟨d, other, rfl, rfl⟩)

/-- Where there are no more colours than groups, the answer is their mode. -/
theorem answer_few (few : ((colors.toList : Multiset Rgb).toFinset.card : ℤ) ≤ clusters)
    {a : Answer} :
    answer colors clusters = .ok a ↔ a.grouped = none ∧ IsMode colors.toList a.color := by
  rw [answer, length_tally]
  dsimp only
  rw [if_pos few]
  by_cases none_ : colors = #[]
  case pos =>
    subst none_
    refine ⟨nofun, fun ⟨_, isMode⟩ => ?_⟩
    cases isMode.occurs
  case neg =>
    have mode := isMode_mostFrequent none_
    rw [if_neg (by simpa using none_)]
    constructor
    · rintro ⟨⟩
      exact ⟨rfl, mode⟩
    · rintro ⟨ungrouped, isMode⟩
      obtain ⟨color, grouped⟩ := a
      obtain rfl : grouped = none := ungrouped
      obtain rfl : color = _ := isMode.unique mode
      rfl

/-- With no more colours than groups, the order of the colours has no say. -/
theorem answer_perm {other : Array Rgb} (same : colors.toList.Perm other.toList)
    (few : ((colors.toList : Multiset Rgb).toFinset.card : ℤ) ≤ clusters) :
    answer other clusters = answer colors clusters := by
  have none_ : other.isEmpty = colors.isEmpty := by
    rw [Bool.eq_iff_iff, Array.isEmpty_iff_size_eq_zero, Array.isEmpty_iff_size_eq_zero,
      ← Array.length_toList, ← Array.length_toList, same.length_eq]
  rw [← length_tally] at few
  rw [answer, answer, ← tally_perm same, none_]
  dsimp only
  rw [if_pos few, if_pos few]

end Dominant

/-! ## Pixels in no order -/

def Rgba.color (p : Rgba) : Rgb := ⟨p.red, p.green, p.blue⟩

/-- The pixels of a picture, each with its multiplicity. -/
def Raster.pixels (r : Raster) : Multiset Rgba :=
  (Finset.univ : Finset (Fin r.width × Fin r.height)).val.map fun place =>
    r.pixelAt place.1 place.2

/-- The colours of the pixels that can be seen, or of all where none can. -/
def seenColors (pixels : Multiset Rgba) : Multiset Rgb :=
  let visible := pixels.filter (·.alpha ≠ 0)
  (if visible = 0 then pixels else visible).map Rgba.color

namespace Dominant

theorem coe_pixelRow (r : Raster) : ((pixelRow r).toList : Multiset Rgba) = r.pixels := by
  let places : Fin r.width × Fin r.height ≃ Fin (r.width * r.height) :=
    (Equiv.prodComm _ _).trans (finProdFinEquiv.trans (finCongr (Nat.mul_comm _ _)))
  rw [pixelRow, Array.toList_ofFn, ← Fin.univ_val_map, ← Multiset.map_univ_val_equiv places,
    Multiset.map_map]
  refine Multiset.map_congr rfl fun place _ => ?_
  obtain ⟨x, y⟩ := place
  have wide : 0 < r.width := x.pos
  have value : (places (x, y)).val = x + r.width * y := rfl
  simp only [Function.comp_apply, value, Nat.add_mul_mod_self_left, Nat.mod_eq_of_lt x.isLt,
    Nat.add_mul_div_left _ _ wide, Nat.div_eq_of_lt x.isLt, Nat.zero_add]

theorem pixelAt_mem_pixelRow {r : Raster} {x y : ℕ} (hx : x < r.width) (hy : y < r.height) :
    r.pixelAt x y ∈ pixelRow r := by
  rw [← Array.mem_toList_iff, ← Multiset.mem_coe, coe_pixelRow, Raster.pixels, Multiset.mem_map]
  exact ⟨(⟨x, hx⟩, ⟨y, hy⟩), Finset.mem_univ _, rfl⟩

/-- What is looked at does not depend on how the pixels are arranged. -/
theorem coe_visibleColors (r : Raster) :
    ((visibleColors r).toList : Multiset Rgb) = seenColors r.pixels := by
  have visible : (((pixelRow r).filter (·.alpha != 0)).toList : Multiset Rgba) =
      r.pixels.filter (·.alpha ≠ 0) := by
    rw [← coe_pixelRow, Multiset.filter_coe, Array.toList_filter]
    congr 1
    exact List.filter_congr fun p _ => by rw [Bool.eq_iff_iff]; simp
  have none_ : ((pixelRow r).filter (·.alpha != 0)).isEmpty = true ↔
      r.pixels.filter (·.alpha ≠ 0) = 0 := by
    rw [← visible, Multiset.coe_eq_zero]
    simp
  rw [visibleColors_eq, Array.toList_map, ← Multiset.map_coe, seenColors, seenPixels]
  split_ifs with one other other
  · rw [coe_pixelRow]
    rfl
  · exact absurd (none_.mp one) other
  · exact absurd (none_.mpr other) one
  · rw [visible]
    rfl

end Dominant

namespace Raster

variable {r : Raster}

/-- A picture that is mapped onto the places of another has its pixels. -/
theorem pixels_remap {width height : Nat} {f : Nat → Nat → Nat → UInt8}
    (places : Fin width × Fin height ≃ Fin r.width × Fin r.height)
    (bytes : ∀ (x : Fin width) (y : Fin height) (c : Nat),
      f x y c = r.byteAt (places (x, y)).1 (places (x, y)).2 c) :
    (r.remap width height f).pixels = r.pixels := by
  rw [pixels, pixels, ← Multiset.map_univ_val_equiv places, Multiset.map_map]
  refine Multiset.map_congr rfl fun place _ => ?_
  obtain ⟨x, y⟩ := place
  refine pixelAt_congr (sameKind_remap r width height f) fun c inside => ?_
  exact (byteAt_remap (r := r) x.isLt y.isLt inside).trans (bytes x y c)

/-- A place among `n`, counted from the far end or not. -/
def countedPlaces (far : Bool) (n : Nat) : Equiv.Perm (Fin n) :=
  if far then Fin.revPerm else Equiv.refl _

theorem val_countedPlaces (far : Bool) {n : Nat} (x : Fin n) :
    (countedPlaces far n x).val = counted far n x := by
  cases far
  · rfl
  · simp only [countedPlaces, counted, if_true, Fin.revPerm_apply, Fin.val_rev]
    omega

/-- However a picture is laid, its pixels are the same. -/
theorem pixels_laid (g : Orientation) : (r.laid g).pixels = r.pixels := by
  obtain ⟨swapped, across, down⟩ := g
  cases swapped
  case false =>
    refine pixels_remap
      ((countedPlaces across r.width).prodCongr (countedPlaces down r.height)) fun x y c => ?_
    simp [val_countedPlaces]
  case true =>
    refine pixels_remap ((Equiv.prodComm _ _).trans
      ((countedPlaces across r.width).prodCongr (countedPlaces down r.height))) fun x y c => ?_
    simp [val_countedPlaces]

/-- Converted to RGBA, a picture has the same pixels. -/
theorem pixels_toRgba {p : Raster} (made : r.toRgba = .ok p) : p.pixels = r.pixels := by
  obtain ⟨width, height⟩ := toRgba_size made
  obtain ⟨mode, pWidth, pHeight, data, palette, transparency, sized⟩ := p
  obtain rfl : pWidth = r.width := width
  obtain rfl : pHeight = r.height := height
  exact Multiset.map_congr rfl fun place _ => pixelAt_toRgba made place.1.isLt place.2.isLt

end Raster

/-! ## Pictures of few colours -/

namespace Dominant

/-- A picture with colours, both sides of which are within the edge. -/
structure Fits (r : Raster) (edge : ℤ) : Prop where
  colours : r.isConvertible = true
  narrow : (r.width : ℤ) ≤ edge
  low : (r.height : ℤ) ≤ edge

variable {r s : Raster} {clusters edge : ℤ} {a : Answer}

/-- No more colours are looked at than there are groups. -/
def Few (pixels : Multiset Rgba) (clusters : ℤ) : Prop :=
  ((seenColors pixels).toFinset.card : ℤ) ≤ clusters

/-- What fits is looked at as it is. -/
theorem ofRaster_of_fits (fits : Fits r edge) : ∃ p, p.width = r.width ∧ p.height = r.height ∧
    p.pixels = r.pixels ∧ ∀ clusters, ofRaster r clusters edge = answer (visibleColors p) clusters := by
  obtain ⟨p, converted⟩ := r.toRgba_found fits.colours
  obtain ⟨width, height⟩ := Raster.toRgba_size converted
  refine ⟨p, width, height, Raster.pixels_toRgba converted, fun clusters => ?_⟩
  rw [ofRaster, sample_of_fits converted fits.narrow fits.low, Outcome.ok_bind]

theorem ofRaster_few (fits : Fits r edge) (few : Few r.pixels clusters) :
    ofRaster r clusters edge = .ok a ↔
      a.grouped = none ∧ IsMode (seenColors r.pixels) a.color := by
  obtain ⟨p, -, -, same, looked⟩ := ofRaster_of_fits fits
  rw [looked, answer_few (by rwa [coe_visibleColors, same]), coe_visibleColors, same]

theorem ofRaster_few_found (fits : Fits r edge) (few : Few r.pixels clusters)
    (wide : 0 < r.width) (tall : 0 < r.height) : ∃ a, ofRaster r clusters edge = .ok a := by
  obtain ⟨p, width, height, same, -⟩ := ofRaster_of_fits fits
  have mode := isMode_mostFrequent (visibleColors_ne_empty (r := p) (width ▸ wide) (height ▸ tall))
  rw [coe_visibleColors, same] at mode
  exact ⟨⟨_, none⟩, (ofRaster_few fits few).mpr ⟨rfl, mode⟩⟩

/-- Pictures that fit and have the same few pixels are answered alike. -/
theorem ofRaster_rearranged (fits : Fits r edge) (few : Few r.pixels clusters)
    (fits' : Fits s edge) (same : s.pixels = r.pixels) :
    ofRaster s clusters edge = ofRaster r clusters edge := by
  obtain ⟨p, -, -, whole, looked⟩ := ofRaster_of_fits fits
  obtain ⟨q, -, -, whole', looked'⟩ := ofRaster_of_fits fits'
  have colors : ((visibleColors p).toList : Multiset Rgb) = (visibleColors q).toList := by
    rw [coe_visibleColors, coe_visibleColors, whole, whole', same]
  rw [looked, looked', answer_perm (Multiset.coe_eq_coe.mp colors)
    (by rwa [coe_visibleColors, whole])]

/-- An orientation step makes a picture that fits as the first one does, and has its
pixels. -/
theorem fits_of_turn {step : Step} (turns : step.resamples = false) (fits : Fits r edge) :
    ∃ p, step.run r = .ok p ∧ Fits p edge ∧ p.pixels = r.pixels := by
  rcases step.turn_or_sides with ⟨turn, known⟩ | ⟨width, height, given⟩
  · refine ⟨_, Step.run_of_turn known r, ?_⟩
    rw [Raster.transformed_eq_laid]
    obtain ⟨colours, narrow, low⟩ := fits
    refine ⟨⟨colours, ?_, ?_⟩, Raster.pixels_laid _⟩
    · rw [Raster.laid_width]
      split <;> assumption
    · rw [Raster.laid_height]
      split <;> assumption
  · rw [Step.resamples_of_sides given] at turns
    cases turns

end Dominant

/-- The choice of a mark looks at a picture through its dominant colour alone. -/
theorem Watermark.choose_congr {r s : Raster}
    (same : Dominant.ofRaster s Dominant.defaultClusters Dominant.defaultSample =
      Dominant.ofRaster r Dominant.defaultClusters Dominant.defaultSample) :
    choose s = choose r := by
  rw [choose, choose, dominant, dominant, same]

namespace Dominant

variable {r : Raster} {clusters edge : ℤ}

/-- Few colours are answered exactly: a picture that fits the edge and shows no more
colours than there are groups has their mode for its dominant colour.  Any picture that
fits and has the same pixels, in any arrangement and shape, has the same one, and gets
the same mark; so does what a rotation or a flip makes of the picture. -/
theorem few_colors_exact (fits : Fits r edge) (few : Few r.pixels clusters) :
    (0 < r.width → 0 < r.height → ∃ a, ofRaster r clusters edge = .ok a) ∧
    (∀ a, ofRaster r clusters edge = .ok a ↔
      a.grouped = none ∧ IsMode (seenColors r.pixels) a.color) ∧
    (∀ s, s.pixels = r.pixels →
      (Fits s edge → ofRaster s clusters edge = ofRaster r clusters edge) ∧
      (Few r.pixels defaultClusters → Fits r defaultSample → Fits s defaultSample →
        Watermark.choose s = Watermark.choose r)) ∧
    ∀ step : Step, step.resamples = false → ∃ p, step.run r = .ok p ∧
      ofRaster p clusters edge = ofRaster r clusters edge ∧
      (Few r.pixels defaultClusters → Fits r defaultSample →
        Watermark.choose p = Watermark.choose r) := by
  have marked (s : Raster) (same : s.pixels = r.pixels) (few : Few r.pixels defaultClusters)
      (fits : Fits r defaultSample) (fits' : Fits s defaultSample) :
      Watermark.choose s = Watermark.choose r :=
    Watermark.choose_congr (ofRaster_rearranged fits few fits' same)
  refine ⟨ofRaster_few_found fits few, fun a => ofRaster_few fits few,
    fun s same => ⟨fun fits' => ofRaster_rearranged fits few fits' same, marked s same⟩,
    fun step turns => ?_⟩
  obtain ⟨p, ran, fits', same⟩ := fits_of_turn turns fits
  refine ⟨p, ran, ofRaster_rearranged fits few fits' same, fun few fits => ?_⟩
  obtain ⟨_, ran', fits', -⟩ := fits_of_turn turns fits
  obtain rfl := Except.ok.inj (ran.symm.trans ran')
  exact marked p same few fits fits'

/-- A blue pixel, a red one, and one that cannot be seen. -/
def flag : Raster where
  mode := .rgba
  width := 3
  height := 1
  data := #[0, 0, 255, 255, 255, 0, 0, 255, 9, 9, 9, 0]
  size_data := rfl

/-- Of two colours seen once each it is the first in order, also upright. -/
theorem flag_counted :
    (∃ a, ofRaster flag 2 3 = .ok a ∧ a.color = ⟨0, 0, 255⟩) ∧
    ∃ p, (Step.rotate (.number (.int 90)) .quarterTurn).run flag = .ok p ∧
      p.width = 1 ∧ ofRaster p 2 3 = ofRaster flag 2 3 ∧
      Watermark.choose p = Watermark.choose flag := by
  have seen : seenColors flag.pixels = {⟨0, 0, 255⟩, ⟨255, 0, 0⟩} := by decide +kernel
  have few : Few flag.pixels 2 := by
    rw [Few, seen]
    decide
  have few' : Few flag.pixels defaultClusters := by
    rw [Few, seen]
    decide
  have mode : IsMode (seenColors flag.pixels) ⟨0, 0, 255⟩ := by
    rw [seen]
    exact ⟨by decide, by simp [Rgb.LexLe]⟩
  have fits : Fits flag 3 := ⟨rfl, by decide, by decide⟩
  obtain ⟨-, answered, -, turned⟩ := few_colors_exact fits few
  obtain ⟨p, ran, alike, marked⟩ := turned (.rotate (.number (.int 90)) .quarterTurn) rfl
  refine ⟨⟨_, (answered ⟨⟨0, 0, 255⟩, none⟩).mpr ⟨rfl, mode⟩, rfl⟩, p, ran, ?_, alike,
    marked few' ⟨rfl, by decide, by decide⟩⟩
  obtain rfl := Except.ok.inj ran
  rfl

end Dominant

end Darkroom
