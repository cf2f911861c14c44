/-
# Darkroom.Proofs.Seeding -- the first labels of a clustering are even

Luma is never negative, so that its bits order colours as it does (`luma_lt_iff`).  The
ranking is then the stable sort of the pixels by luma: a darker pixel comes before a
brighter one, and of equal ones the earlier (`rankOf_le_of_darker`,
`rankOf_lt_of_earlier`).  Since the ranking is a permutation of the positions, the labels
are those of the ranks `0` to `n - 1`, in some order (`seedLabels_perm`): to count a label
is to count the ranks that have it.

A label is the number of the run that its rank is in, as far as the integers go that
hold it (`labelOfRank_eq`).  Where all of them do (`Held`), labels grow with the rank,
and the ranks of a label are an interval (`labelOfRank_eq_iff`), between two ceilings
that are `n / k` apart, rounded one way or the other (`firstRank_next`).  Past that they
wrap around and may even be negative (`seeding_wraps`).

Colours are grouped where there are more of them than groups (`answer_grouped_iff`).
There are `2 ^ 24` colours (`variety_le`), so that no label of a grouping wraps around.
Then no label is without a pixel, and the first round has no cluster to fill
(`fillEmpty_firstLabels`).
-/
import Darkroom.Proofs.Frequent
import Darkroom.Proofs.SinglePrecision
import Mathlib.Algebra.Order.Floor.Div
import Mathlib.Data.List.Nodup
import Mathlib.Order.Interval.Finset.Nat

namespace Darkroom

set_option autoImplicit false

namespace Cluster

variable {pixels : Array Rgb} {clusters : ℕ}

/-! ## Luma -/

theorem nonneg_luma (c : Rgb) : Single.Nonneg (luma c) := by
  have red : Single.Nonneg (c.red.toFloat32 * 0.299) :=
    (Single.nonneg_ofUInt8 c.red).mul (by decide) (by decide)
  have green : Single.Nonneg (c.green.toFloat32 * 0.587) :=
    (Single.nonneg_ofUInt8 c.green).mul (by decide) (by decide)
  have blue : Single.Nonneg (c.blue.toFloat32 * 0.114) :=
    (Single.nonneg_ofUInt8 c.blue).mul (by decide) (by decide)
  exact (red.add green).add blue

theorem luma_lt_iff {c d : Rgb} : luma c < luma d ↔ lumaRank c < lumaRank d :=
  Single.lt_iff_toBits (nonneg_luma c) (nonneg_luma d)

theorem luma_beq_iff {c d : Rgb} : luma c == luma d ↔ lumaRank c = lumaRank d :=
  Single.beq_iff_toBits (nonneg_luma c) (nonneg_luma d)

/-! ## Numbers of members in a list -/

section Lists

variable {α : Type} {l : List ℕ} {i j : ℕ}

/-- Of a list without repetitions, what comes first has the smaller number. -/
theorem idxOf_lt_of_sublist (distinct : l.Nodup) (inOrder : [i, j].Sublist l) :
    l.idxOf i < l.idxOf j := by
  induction l with
  | nil => cases inOrder
  | cons x rest ih =>
    obtain ⟨fresh, distinct⟩ := List.nodup_cons.mp distinct
    have other {y : ℕ} (later : y ∈ rest) : x ≠ y := fun same => fresh (same ▸ later)
    cases inOrder with
    | cons _ inOrder =>
      have first : i ∈ rest := inOrder.subset List.mem_cons_self
      have second : j ∈ rest := inOrder.subset (by simp)
      rw [List.idxOf_cons_ne _ (other first), List.idxOf_cons_ne _ (other second)]
      exact Nat.succ_lt_succ (ih distinct inOrder)
    | cons_cons _ alone =>
      have second : j ∈ rest := alone.subset List.mem_cons_self
      rw [List.idxOf_cons_self, List.idxOf_cons_ne _ (other second)]
      exact Nat.succ_pos _

/-- In a sorted list the member of the smaller number is the one before. -/
theorem rel_of_idxOf_lt {R : ℕ → ℕ → Prop} (sorted : l.Pairwise R) (second : j ∈ l)
    (less : l.idxOf i < l.idxOf j) : R i j := by
  have bound := List.idxOf_lt_length_iff.mpr second
  have related := List.pairwise_iff_getElem.mp sorted _ _ (less.trans bound) bound less
  rwa [List.getElem_idxOf, List.getElem_idxOf] at related

theorem pair_sublist_range {n : ℕ} (less : i < j) (bound : j < n) :
    [i, j].Sublist (List.range n) := by
  have first : [i].Sublist (List.range j) := List.singleton_sublist.mpr (List.mem_range.mpr less)
  have both : ([i] ++ [j]).Sublist (List.range j ++ [j]) := first.append (List.Sublist.refl _)
  rw [← List.range_succ] at both
  exact both.trans (List.range_sublist.mpr bound)

theorem size_written (f : ℕ → α) (entries : List (ℕ × ℕ)) (labels : Array α) :
    (entries.foldl (fun labels e => labels.setIfInBounds e.1 (f e.2)) labels).size =
      labels.size := by
  induction entries generalizing labels with
  | nil => rfl
  | cons e rest ih => rw [List.foldl_cons, ih, Array.size_setIfInBounds]

/-- Values written down a list of positions leave the other positions as they are. -/
theorem getElem?_written_of_not_mem (f : ℕ → α) {positions : List ℕ} (start : ℕ)
    (labels : Array α) (other : i ∉ positions) :
    ((positions.zipIdx start).foldl
      (fun labels e => labels.setIfInBounds e.1 (f e.2)) labels)[i]? = labels[i]? := by
  induction positions generalizing start labels with
  | nil => rfl
  | cons p rest ih =>
    simp only [List.mem_cons, not_or] at other
    obtain ⟨apart, other⟩ := other
    rw [List.zipIdx_cons, List.foldl_cons, ih _ _ other]
    exact Array.getElem?_setIfInBounds_ne (Ne.symm apart)

/-- At a position of the list stands what was written for its number in the list. -/
theorem getElem?_written_of_mem (f : ℕ → α) {positions : List ℕ} (distinct : positions.Nodup)
    (start : ℕ) (labels : Array α) (member : i ∈ positions) (bound : i < labels.size) :
    ((positions.zipIdx start).foldl
      (fun labels e => labels.setIfInBounds e.1 (f e.2)) labels)[i]? =
      some (f (start + positions.idxOf i)) := by
  induction positions generalizing start labels with
  | nil => cases member
  | cons p rest ih =>
    obtain ⟨fresh, distinct⟩ := List.nodup_cons.mp distinct
    rw [List.zipIdx_cons, List.foldl_cons]
    rcases List.mem_cons.mp member with rfl | later
    · rw [getElem?_written_of_not_mem f _ _ fresh, List.idxOf_cons_self]
      simp [bound]
    · have apart : p ≠ i := fun same => fresh (same ▸ later)
      rw [ih distinct _ _ later (by simpa using bound), List.idxOf_cons_ne _ apart]
      congr 2
      omega

end Lists

/-! ## The ranking -/

/-- What the ranking compares. -/
def rankKey (pixels : Array Rgb) (i : ℕ) : ℕ := (pixels.map lumaRank).getD i 0

/-- The number of a pixel in the ranking. -/
def rankOf (pixels : Array Rgb) (i : ℕ) : ℕ := (ranking pixels).idxOf i

section Ranking

variable (pixels)

theorem ranking_perm : (ranking pixels).Perm (List.range pixels.size) :=
  List.mergeSort_perm _ _

theorem nodup_ranking : (ranking pixels).Nodup :=
  (ranking_perm pixels).nodup_iff.mpr List.nodup_range

theorem length_ranking : (ranking pixels).length = pixels.size := by
  rw [(ranking_perm pixels).length_eq, List.length_range]

theorem rankKey_trans (a b c : ℕ) :
    decide (rankKey pixels a ≤ rankKey pixels b) = true →
      decide (rankKey pixels b ≤ rankKey pixels c) = true →
        decide (rankKey pixels a ≤ rankKey pixels c) = true := by
  simp only [decide_eq_true_eq]
  exact le_trans

theorem rankKey_total (a b : ℕ) :
    (decide (rankKey pixels a ≤ rankKey pixels b) ||
      decide (rankKey pixels b ≤ rankKey pixels a)) = true := by
  simpa only [Bool.or_eq_true, decide_eq_true_eq] using le_total _ _

theorem sorted_ranking :
    (ranking pixels).Pairwise fun i j => rankKey pixels i ≤ rankKey pixels j := by
  have sorted := List.pairwise_mergeSort (rankKey_trans pixels) (rankKey_total pixels)
    (List.range pixels.size)
  exact sorted.imp of_decide_eq_true

end Ranking

variable {i j : ℕ}

theorem mem_ranking : i ∈ ranking pixels ↔ i < pixels.size := by
  rw [(ranking_perm pixels).mem_iff, List.mem_range]

theorem rankKey_eq (inside : i < pixels.size) : rankKey pixels i = lumaRank pixels[i] := by
  simp [rankKey, inside]

theorem rankOf_lt (inside : i < pixels.size) : rankOf pixels i < pixels.size := by
  rw [← length_ranking pixels]
  exact List.idxOf_lt_length_iff.mpr (mem_ranking.mpr inside)

/-- The ranking is stable. -/
theorem rankOf_lt_of_earlier (earlier : i < j) (inside : j < pixels.size)
    (le : rankKey pixels i ≤ rankKey pixels j) : rankOf pixels i < rankOf pixels j :=
  idxOf_lt_of_sublist (nodup_ranking pixels)
    (List.pair_sublist_mergeSort (rankKey_trans pixels) (rankKey_total pixels)
      (decide_eq_true le) (pair_sublist_range earlier inside))

theorem rankOf_le_of_darker (first : i < pixels.size)
    (darker : rankKey pixels i < rankKey pixels j) : rankOf pixels i ≤ rankOf pixels j := by
  by_contra late
  have after := rel_of_idxOf_lt (sorted_ranking pixels) (mem_ranking.mpr first)
    (Nat.lt_of_not_le late)
  omega

/-! ## The labels -/

/-- The number of the run that a rank is in, when `n` ranks are cut into even runs. -/
def runOfRank (clusters n i : ℕ) : ℕ := i * clusters / n

theorem runOfRank_mono {n r s : ℕ} (le : r ≤ s) :
    runOfRank clusters n r ≤ runOfRank clusters n s :=
  Nat.div_le_div_right (Nat.mul_le_mul_right _ le)

theorem runOfRank_lt {n r : ℕ} (positive : 0 < clusters) (inside : r < n) :
    runOfRank clusters n r < clusters :=
  Nat.div_lt_of_lt_mul (Nat.mul_lt_mul_of_pos_right inside positive)

/-- The numbers that come up for `n` pixels fit the integers that hold them: each label
32 bits, and each product 64. -/
structure Held (clusters n : ℕ) : Prop where
  labels : clusters ≤ 2 ^ 31
  products : (n - 1) * clusters < 2 ^ 63

section Held

variable {n r s j : ℕ}

/-- Up to `2 ^ 32` pixels it is for the labels alone to say. -/
theorem Held.of_le (labels : clusters ≤ 2 ^ 31) (few : n ≤ 2 ^ 32) : Held clusters n := by
  refine ⟨labels, ?_⟩
  calc (n - 1) * clusters ≤ (2 ^ 32 - 1) * 2 ^ 31 := Nat.mul_le_mul (by omega) labels
    _ < 2 ^ 63 := by norm_num

theorem labelOfRank_eq (held : Held clusters n) (inside : r < n) :
    labelOfRank clusters n r = Int32.ofNat (runOfRank clusters n r) := by
  have product : r * clusters < 2 ^ 63 :=
    (Nat.mul_le_mul_right clusters (by omega : r ≤ n - 1)).trans_lt held.products
  rw [labelOfRank, Int64.toInt_ofNat_of_lt product, ← Int32.ofInt_eq_ofNat, runOfRank,
    Int.natCast_ediv, Int.fdiv_eq_ediv_of_nonneg _ (Int.natCast_nonneg n)]

/-- The number of a label is what 32 bits say it is. -/
theorem Held.toInt_ofNat (held : Held clusters n) (label : j < clusters) :
    (Int32.ofNat j).toInt = j := by
  have := held.labels
  exact Int32.toInt_ofNat_of_lt (by omega)

theorem toInt_labelOfRank (held : Held clusters n) (positive : 0 < clusters) (inside : r < n) :
    (labelOfRank clusters n r).toInt = runOfRank clusters n r := by
  rw [labelOfRank_eq held inside, held.toInt_ofNat (runOfRank_lt positive inside)]

theorem labelOfRank_mono (held : Held clusters n) (positive : 0 < clusters) (le : r ≤ s)
    (inside : s < n) : labelOfRank clusters n r ≤ labelOfRank clusters n s := by
  rw [Int32.le_iff_toInt_le, toInt_labelOfRank held positive (by omega),
    toInt_labelOfRank held positive inside]
  exact_mod_cast runOfRank_mono le

/-- A label is that of a run just when it is the number of the run. -/
theorem labelOfRank_eq_ofNat_iff (held : Held clusters n) (positive : 0 < clusters) (inside : r < n)
    (label : j < clusters) :
    labelOfRank clusters n r = Int32.ofNat j ↔ runOfRank clusters n r = j := by
  rw [← Int32.toInt_inj, toInt_labelOfRank held positive inside, held.toInt_ofNat label]
  exact Int.ofNat_inj

end Held

theorem getElem?_seedLabels (clusters : ℕ) (inside : i < pixels.size) :
    (seedLabels pixels clusters)[i]? =
      some (labelOfRank clusters pixels.size (rankOf pixels i)) := by
  have written := getElem?_written_of_mem (labelOfRank clusters pixels.size)
    (nodup_ranking pixels) 0 (Array.replicate pixels.size 0) (mem_ranking.mpr inside)
    (by simpa using inside)
  rwa [Nat.zero_add] at written

theorem size_seedLabels (pixels : Array Rgb) (clusters : ℕ) :
    (seedLabels pixels clusters).size = pixels.size :=
  (size_written (labelOfRank clusters pixels.size) _ _).trans Array.size_replicate

/-- The labels are those of the ranks, in some order. -/
theorem seedLabels_perm (pixels : Array Rgb) (clusters : ℕ) :
    (seedLabels pixels clusters).toList.Perm
      ((List.range pixels.size).map (labelOfRank clusters pixels.size)) := by
  have listed : (seedLabels pixels clusters).toList =
      (List.range pixels.size).map fun i =>
        labelOfRank clusters pixels.size (rankOf pixels i) := by
    refine List.ext_getElem? fun i => ?_
    rw [Array.getElem?_toList]
    by_cases inside : i < pixels.size
    · rw [getElem?_seedLabels clusters inside]
      simp [inside]
    · rw [Array.getElem?_eq_none (by rw [size_seedLabels]; omega)]
      simp [Nat.le_of_not_lt inside]
  -- Down the ranking itself the ranks are `0`, `1` and so on.
  have ranked : (ranking pixels).map (fun i =>
        labelOfRank clusters pixels.size (rankOf pixels i)) =
      (List.range pixels.size).map (labelOfRank clusters pixels.size) := by
    refine List.ext_getElem (by simp [length_ranking]) fun r bound _ => ?_
    rw [List.length_map] at bound
    simp [rankOf, (nodup_ranking pixels).idxOf_getElem r bound]
  rw [listed, ← ranked]
  exact ((ranking_perm pixels).map _).symm

/-! ## How many pixels a label gets -/

/-- The first rank of a run. -/
def firstRank (clusters n j : ℕ) : ℕ := (j * n) ⌈/⌉ clusters

theorem firstRank_le_iff {n r : ℕ} (positive : 0 < clusters) :
    firstRank clusters n j ≤ r ↔ j * n ≤ clusters * r :=
  ceilDiv_le_iff_le_mul positive

/-- A run goes from its first rank to that of the next run. -/
theorem runOfRank_eq_iff {n r : ℕ} (positive : 0 < clusters) (some_ : 0 < n) :
    runOfRank clusters n r = j ↔
      firstRank clusters n j ≤ r ∧ r < firstRank clusters n (j + 1) := by
  have reached (j : ℕ) : j ≤ runOfRank clusters n r ↔ firstRank clusters n j ≤ r := by
    rw [firstRank_le_iff positive, runOfRank, Nat.le_div_iff_mul_le some_, Nat.mul_comm clusters]
  have here := reached j
  have next := reached (j + 1)
  omega

/-- From one run to the next there are the floor of `n / clusters` ranks at least, and the
ceiling at most. -/
theorem firstRank_next {n : ℕ} (positive : 0 < clusters) :
    firstRank clusters n j + n / clusters ≤ firstRank clusters n (j + 1) ∧
      firstRank clusters n (j + 1) ≤ firstRank clusters n j + n ⌈/⌉ clusters := by
  have reached := (firstRank_le_iff (j := j) (n := n) positive).mp le_rfl
  have next := (firstRank_le_iff (j := j + 1) (n := n) positive).mp le_rfl
  have floor : clusters * (n / clusters) ≤ n := Nat.mul_div_le n clusters
  have ceiling : n ≤ clusters * (n ⌈/⌉ clusters) := (ceilDiv_le_iff_le_mul positive).mp le_rfl
  rw [Nat.succ_mul] at next
  -- Both first ranks are least, so a bound on one is a product to be compared.
  constructor
  · have below : n / clusters ≤ firstRank clusters n (j + 1) :=
      Nat.le_of_mul_le_mul_left (by omega) positive
    have left : firstRank clusters n j ≤ firstRank clusters n (j + 1) - n / clusters := by
      rw [firstRank_le_iff positive, Nat.mul_sub]
      omega
    omega
  · rw [firstRank_le_iff positive, Nat.succ_mul, Nat.mul_add]
    omega

theorem firstRank_le {n : ℕ} (positive : 0 < clusters) (le : j ≤ clusters) :
    firstRank clusters n j ≤ n :=
  (firstRank_le_iff positive).mpr (Nat.mul_le_mul_right n le)

theorem countP_range_between {n first next : ℕ} (le : next ≤ n) :
    (List.range n).countP (fun r => first ≤ r ∧ r < next) = next - first := by
  have between : (Finset.range n).filter (fun r => first ≤ r ∧ r < next) =
      Finset.Ico first next := by
    ext r
    simp only [Finset.mem_filter, Finset.mem_range, Finset.mem_Ico]
    omega
  rw [← Nat.card_Ico, ← between, Finset.card_def, Finset.filter_val, ← Multiset.countP_eq_card_filter]
  rfl

/-- A label gets the ranks of its run. -/
theorem count_seedLabels (held : Held clusters pixels.size) (some_ : 0 < pixels.size)
    (inside : j < clusters) :
    (seedLabels pixels clusters).count (Int32.ofNat j) =
      firstRank clusters pixels.size (j + 1) - firstRank clusters pixels.size j := by
  have positive : 0 < clusters := Nat.zero_lt_of_lt inside
  rw [← Array.count_toList, (seedLabels_perm pixels clusters).count_eq,
    ← countP_range_between (firstRank_le positive inside), List.count, List.countP_map]
  refine List.countP_congr fun r member => ?_
  have rank : r < pixels.size := List.mem_range.mp member
  simp [labelOfRank_eq_ofNat_iff held positive rank inside, runOfRank_eq_iff positive some_]

/-- The labels are as even as whole numbers allow. -/
theorem count_seedLabels_even (held : Held clusters pixels.size) (some_ : 0 < pixels.size)
    (inside : j < clusters) :
    (seedLabels pixels clusters).count (Int32.ofNat j) = pixels.size / clusters ∨
      (seedLabels pixels clusters).count (Int32.ofNat j) = pixels.size ⌈/⌉ clusters := by
  have positive : 0 < clusters := Nat.zero_lt_of_lt inside
  obtain ⟨floor, ceiling⟩ := firstRank_next (j := j) (n := pixels.size) positive
  have close : pixels.size ⌈/⌉ clusters ≤ pixels.size / clusters + 1 := by
    rw [ceilDiv_le_iff_le_mul positive]
    exact (Nat.lt_mul_div_succ _ positive).le
  rw [count_seedLabels held some_ inside]
  omega

/-- With as many pixels as labels, every label has one. -/
theorem count_seedLabels_pos (held : Held clusters pixels.size) (le : clusters ≤ pixels.size)
    (inside : j < clusters) : 0 < (seedLabels pixels clusters).count (Int32.ofNat j) := by
  have positive : 0 < clusters := Nat.zero_lt_of_lt inside
  have full : 1 ≤ pixels.size / clusters := Nat.div_pos le positive
  obtain ⟨floor, -⟩ := firstRank_next (j := j) (n := pixels.size) positive
  rw [count_seedLabels held (positive.trans_le le) inside]
  omega

/-! ## The first round -/

theorem getD_counted (labels : List ℕ) (counts : Array ℕ) (inside : j < counts.size) :
    (labels.foldl (fun counts label => counts.modify label (· + 1)) counts).getD j 0 =
      counts.getD j 0 + labels.count j := by
  induction labels generalizing counts with
  | nil => rfl
  | cons label rest ih =>
    rw [List.foldl_cons, ih _ (by simpa using inside)]
    by_cases same : label = j
    · subst same
      simp [inside, Array.getElem_modify_self, Nat.add_assoc, Nat.add_comm 1]
    · simp [inside, Array.getElem_modify_of_ne same, List.count_cons_of_ne same]

/-- The number of pixels of a cluster is that of its labels. -/
theorem getD_counts_totals {labels : Array ℕ} (sized : labels.size = pixels.size)
    (inside : j < clusters) :
    (totals pixels labels clusters).counts.getD j 0 = labels.count j := by
  have listed : (List.range pixels.size).map (fun i => labels.getD i 0) = labels.toList := by
    refine List.ext_getElem (by simp [sized]) fun i bound _ => ?_
    have member : i < labels.size := by simpa [sized] using bound
    simp [member]
  have counted : (totals pixels labels clusters).counts =
      labels.toList.foldl (fun counts label => counts.modify label (· + 1))
        (Array.replicate clusters 0) := by
    rw [← listed, List.foldl_map]
    exact (List.foldl_hom Totals.counts fun _ _ => rfl).symm
  rw [counted, getD_counted _ _ (by simpa using inside), Array.count_toList]
  simp [inside]

/-- Where no cluster is empty, none is filled. -/
theorem fillEmpty_of_counts {labels : Array ℕ} {t : Totals}
    (full : ∀ j < clusters, t.counts.getD j 0 ≠ 0) :
    fillEmpty pixels labels t clusters = (labels, t) := by
  refine List.foldlRecOn (motive := (· = (labels, t))) _ _ rfl ?_
  rintro _ rfl j member
  exact if_pos (full j (List.mem_range.mp member))

/-- The first round starts from the labels as whole numbers. -/
theorem count_firstLabels (held : Held clusters pixels.size) (inside : j < clusters) :
    (firstLabels pixels clusters).count j = (seedLabels pixels clusters).count (Int32.ofNat j) := by
  have positive : 0 < clusters := Nat.zero_lt_of_lt inside
  rw [← Array.count_toList, ← Array.count_toList, firstLabels, Array.toList_map, List.count,
    List.countP_map, List.count]
  refine List.countP_congr fun label member => ?_
  obtain ⟨r, rank, rfl⟩ := List.mem_map.mp ((seedLabels_perm pixels clusters).mem_iff.mp member)
  have rank : r < pixels.size := List.mem_range.mp rank
  simp only [Function.comp_apply, beq_iff_eq, toInt_labelOfRank held positive rank, Int.toNat_natCast,
    labelOfRank_eq_ofNat_iff held positive rank inside]

/-- With as many pixels as clusters, the first round has none to fill. -/
theorem fillEmpty_firstLabels (held : Held clusters pixels.size) (le : clusters ≤ pixels.size) :
    let t := totals pixels (firstLabels pixels clusters) clusters
    fillEmpty pixels (firstLabels pixels clusters) t clusters =
      (firstLabels pixels clusters, t) := by
  have sized : (firstLabels pixels clusters).size = pixels.size := by
    rw [firstLabels, Array.size_map, size_seedLabels]
  refine fillEmpty_of_counts fun j inside => ?_
  rw [getD_counts_totals sized inside, count_firstLabels held inside]
  exact (count_seedLabels_pos held le inside).ne'

/-! ## What the first labels are like -/

/-- Labels that follow the luma of the pixels and divide them evenly. -/
structure Seeded (pixels : Array Rgb) (clusters : ℕ) (labels : Array Int32) : Prop where
  /-- Each pixel has one label. -/
  size : labels.size = pixels.size
  bounds : ∀ i < pixels.size,
    0 ≤ (labels.getD i 0).toInt ∧ (labels.getD i 0).toInt < clusters
  darker : ∀ (i j : ℕ) (hi : i < pixels.size) (hj : j < pixels.size),
    luma pixels[i] < luma pixels[j] → labels.getD i 0 ≤ labels.getD j 0
  /-- Of one luma, the pixels are taken in the order they come. -/
  earlier : ∀ (i j : ℕ) (hi : i < pixels.size) (hj : j < pixels.size),
    luma pixels[i] == luma pixels[j] → i < j → labels.getD i 0 ≤ labels.getD j 0
  even : ∀ j < clusters, labels.count (Int32.ofNat j) = pixels.size / clusters ∨
    labels.count (Int32.ofNat j) = pixels.size ⌈/⌉ clusters

theorem getD_seedLabels (clusters : ℕ) (inside : i < pixels.size) :
    (seedLabels pixels clusters).getD i 0 =
      labelOfRank clusters pixels.size (rankOf pixels i) := by
  rw [Array.getD_eq_getD_getElem?, getElem?_seedLabels clusters inside, Option.getD_some]

theorem seeded_seedLabels (held : Held clusters pixels.size) (some_ : 0 < pixels.size)
    (positive : 0 < clusters) : Seeded pixels clusters (seedLabels pixels clusters) where
  size := size_seedLabels pixels clusters
  bounds i inside := by
    have rank := rankOf_lt inside
    rw [getD_seedLabels clusters inside, toInt_labelOfRank held positive rank]
    exact ⟨Int.natCast_nonneg _, Int.ofNat_lt.mpr (runOfRank_lt positive rank)⟩
  darker i j hi hj darker := by
    rw [getD_seedLabels clusters hi, getD_seedLabels clusters hj]
    refine labelOfRank_mono held positive (rankOf_le_of_darker hi ?_) (rankOf_lt hj)
    rwa [rankKey_eq hi, rankKey_eq hj, ← luma_lt_iff]
  earlier i j hi hj same earlier := by
    rw [getD_seedLabels clusters hi, getD_seedLabels clusters hj]
    refine labelOfRank_mono held positive (rankOf_lt_of_earlier earlier hj ?_).le (rankOf_lt hj)
    rw [rankKey_eq hi, rankKey_eq hj, luma_beq_iff.mp same]
  even _ inside := count_seedLabels_even held some_ inside

end Cluster

/-! ## Where colours are grouped -/

namespace Dominant

/-- The number of distinct colours. -/
def variety (colors : Array Rgb) : ℕ := (colors.toList : Multiset Rgb).toFinset.card

variable {colors : Array Rgb} {r : Raster} {clusters edge : ℤ}

theorem variety_le_size : variety colors ≤ colors.size := by
  rw [variety, ← Array.length_toList]
  exact Multiset.toFinset_card_le _

/-- There are `2 ^ 24` colours. -/
theorem variety_le : variety colors ≤ 2 ^ 24 := by
  have coded : (colors.toList : Multiset Rgb).toFinset.image code ⊆ Finset.range (2 ^ 24) := by
    intro k member
    obtain ⟨c, -, rfl⟩ := Finset.mem_image.mp member
    have red := c.red.toNat_lt
    have green := c.green.toNat_lt
    have blue := c.blue.toNat_lt
    rw [Finset.mem_range, code]
    omega
  have le := Finset.card_le_card coded
  rwa [Finset.card_image_of_injective _ code_injective, Finset.card_range] at le

/-- Colours are grouped where there are groups, and more colours than groups. -/
theorem answer_grouped_iff :
    (∃ a, answer colors clusters = .ok a ∧ a.grouped ≠ none) ↔
      1 ≤ clusters ∧ clusters < variety colors := by
  rw [answer, length_tally]
  change (∃ a, (if (variety colors : ℤ) ≤ clusters then _ else _) = _ ∧ _) ↔ _
  by_cases few : (variety colors : ℤ) ≤ clusters
  case pos =>
    have counted : ¬(1 ≤ clusters ∧ clusters < variety colors) := by omega
    rw [if_pos few, iff_false_right counted]
    rintro ⟨a, answered, grouped⟩
    split at answered
    · cases answered
    · obtain rfl := Except.ok.inj answered
      exact grouped rfl
  case neg =>
    rw [if_neg few]
    by_cases none_ : clusters < 1
    · rw [if_pos none_]
      constructor
      · rintro ⟨a, ⟨⟩, -⟩
      · rintro ⟨positive, -⟩
        omega
    · rw [if_neg none_]
      exact ⟨fun _ => ⟨by omega, by omega⟩, fun _ => ⟨_, rfl, Option.some_ne_none _⟩⟩

end Dominant

namespace Cluster

open Dominant

/-- Five pixels of three colours, the brightest of them three times. -/
def stripes : Raster where
  mode := .rgba
  width := 5
  height := 1
  data := #[9, 9, 9, 255, 0, 0, 0, 255, 9, 9, 9, 255, 9, 9, 9, 255, 4, 4, 4, 255]
  size_data := rfl

/-- Two pixels and `2 ^ 32` clusters are past the bound: one of the labels is negative. -/
theorem seeding_wraps {pixels : Array Rgb} (two : pixels.size = 2) :
    ¬Seeded pixels (2 ^ 32) (seedLabels pixels (2 ^ 32)) := by
  intro seeded
  have wrapped : labelOfRank (2 ^ 32) pixels.size 1 ∈ (seedLabels pixels (2 ^ 32)).toList := by
    rw [(seedLabels_perm pixels (2 ^ 32)).mem_iff]
    exact List.mem_map_of_mem (List.mem_range.mpr (by omega))
  obtain ⟨i, inside, label⟩ := List.mem_iff_getElem.mp wrapped
  have bounds := (seeded.bounds i (by simpa [size_seedLabels] using inside)).1
  have negative : (labelOfRank (2 ^ 32) 2 1).toInt = -2 ^ 31 := by decide
  rw [two, Array.getElem_toList] at label
  rw [← Array.getElem_eq_getD (h := inside), label, negative] at bounds
  exact absurd bounds (by decide)

end Cluster

end Darkroom
