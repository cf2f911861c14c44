/-
# Darkroom.Proofs.FixedPalette -- a palette colour is its own nearest colour

Every channel of a fixed colour is `68 * level + rest` with a rest of at most 51,
and the rest of the strongest channel is 17 times the brightness
(`fixedTriple_spec`).  So two different colours are at least 17 apart in some
channel, while judging nearness at the corner of a cell of four values moves a
channel by at most 3 (`distance_corner_lt`).  The search therefore finds the very
index of a palette colour: `nearest_fixed`.
-/
import Darkroom.Raster.Dither
import Mathlib.Data.List.Basic
import Mathlib.Tactic.Linarith

namespace Darkroom.Palette

set_option autoImplicit false

/-! ## The colours -/

/-- The fixed colour of an index. -/
def fixedTriple (i : Nat) : Triple Nat :=
  let c := cubeColor (i / 64) (i / 16 % 4) (i / 4 % 4) (i % 4)
  ⟨c.1, c.2.1, c.2.2⟩

theorem entries_fixed : fixed.entries = (List.range 256).map fun i => (i, fixedTriple i) := by
  decide +kernel

/-- A channel of a fixed colour has this level, and this rest when it is the
strongest one. -/
structure HasLevel (value level strongest brightness : Nat) : Prop where
  share : value / 68 = level
  rest : value % 68 ≤ 51
  strong : level = strongest → value % 68 = 17 * brightness

instance (value level strongest brightness : Nat) :
    Decidable (HasLevel value level strongest brightness) :=
  decidable_of_iff (value / 68 = level ∧ value % 68 ≤ 51 ∧
      (level = strongest → value % 68 = 17 * brightness))
    ⟨fun h => ⟨h.1, h.2.1, h.2.2⟩, fun h => ⟨h.share, h.rest, h.strong⟩⟩

/-- The strongest of the three levels of an index. -/
def strongest (i : Nat) : Nat := max (i / 64) (max (i / 4 % 4) (i % 4))

theorem fixedTriple_spec : ∀ i < 256,
    HasLevel (fixedTriple i).red (i / 64) (strongest i) (i / 16 % 4) ∧
      HasLevel (fixedTriple i).green (i / 4 % 4) (strongest i) (i / 16 % 4) ∧
        HasLevel (fixedTriple i).blue (i % 4) (strongest i) (i / 16 % 4) := by
  decide +kernel

/-- Two values less than 17 apart have one level. -/
theorem HasLevel.level_eq {v w l m s t a b : Nat} (hv : HasLevel v l s a) (hw : HasLevel w m t b)
    (near : v < w + 17 ∧ w < v + 17) : l = m := by
  obtain ⟨levelV, restV, -⟩ := hv
  obtain ⟨levelW, restW, -⟩ := hw
  omega

/-- Two strongest values less than 17 apart have one brightness. -/
theorem HasLevel.brightness_eq {v w l a b : Nat} (hv : HasLevel v l l a) (hw : HasLevel w l l b)
    (near : v < w + 17 ∧ w < v + 17) : a = b := by
  obtain ⟨levelV, -, strongV⟩ := hv
  obtain ⟨levelW, -, strongW⟩ := hw
  have := strongV rfl
  have := strongW rfl
  omega

/-- Colours less than 17 apart in every channel have one index. -/
theorem index_eq_of_near {i j : Nat} (hi : i < 256) (hj : j < 256)
    (red : (fixedTriple i).red < (fixedTriple j).red + 17 ∧
      (fixedTriple j).red < (fixedTriple i).red + 17)
    (green : (fixedTriple i).green < (fixedTriple j).green + 17 ∧
      (fixedTriple j).green < (fixedTriple i).green + 17)
    (blue : (fixedTriple i).blue < (fixedTriple j).blue + 17 ∧
      (fixedTriple j).blue < (fixedTriple i).blue + 17) : i = j := by
  obtain ⟨redI, greenI, blueI⟩ := fixedTriple_spec i hi
  obtain ⟨redJ, greenJ, blueJ⟩ := fixedTriple_spec j hj
  have redLevel := redI.level_eq redJ red
  have greenLevel := greenI.level_eq greenJ green
  have blueLevel := blueI.level_eq blueJ blue
  have same : strongest j = strongest i := by
    unfold strongest
    rw [redLevel, greenLevel, blueLevel]
  rw [same, ← redLevel] at redJ
  rw [same, ← greenLevel] at greenJ
  rw [same, ← blueLevel] at blueJ
  have brightness : i / 16 % 4 = j / 16 % 4 := by
    rcases (by unfold strongest; omega :
        i / 64 = strongest i ∨ i / 4 % 4 = strongest i ∨ i % 4 = strongest i) with top | top | top
    · rw [top] at redI redJ
      exact redI.brightness_eq redJ red
    · rw [top] at greenI greenJ
      exact greenI.brightness_eq greenJ green
    · rw [top] at blueI blueJ
      exact blueI.brightness_eq blueJ blue
  omega

/-! ## Distances -/

theorem square_le {a b k : Nat} (near : a ≤ b + k ∧ b ≤ a + k) : square a b ≤ k * k :=
  Nat.mul_le_mul (by omega) (by omega)

theorem le_square {a b k : Nat} (far : b + k ≤ a ∨ a + k ≤ b) : k * k ≤ square a b :=
  Nat.mul_le_mul (by omega) (by omega)

theorem distance_eq (s t : Triple Nat) :
    distance s t = square s.red t.red + square s.green t.green + square s.blue t.blue := rfl

/-- Seen from the corner of its cell, a fixed colour is nearer than any other. -/
theorem distance_corner_lt {i j : Nat} (hi : i < 256) (hj : j < 256) (ne : j ≠ i) :
    distance (fixedTriple i) ((fixedTriple i).map cellCorner) <
      distance (fixedTriple j) ((fixedTriple i).map cellCorner) := by
  have corner (v : Nat) : v ≤ cellCorner v + 3 ∧ cellCorner v ≤ v + 3 := by
    unfold cellCorner
    omega
  have own : distance (fixedTriple i) ((fixedTriple i).map cellCorner) ≤ 27 := by
    rw [distance_eq]
    have := square_le (corner (fixedTriple i).red)
    have := square_le (corner (fixedTriple i).green)
    have := square_le (corner (fixedTriple i).blue)
    simp only [Triple.map]
    omega
  have far (v w : Nat) (apart : ¬ (v < w + 17 ∧ w < v + 17)) : 196 ≤ square v (cellCorner w) := by
    obtain ⟨low, high⟩ := corner w
    exact le_square (k := 14) (by omega)
  have other : 196 ≤ distance (fixedTriple j) ((fixedTriple i).map cellCorner) := by
    rw [distance_eq]
    simp only [Triple.map]
    by_cases red : (fixedTriple j).red < (fixedTriple i).red + 17 ∧
        (fixedTriple i).red < (fixedTriple j).red + 17
    · by_cases green : (fixedTriple j).green < (fixedTriple i).green + 17 ∧
          (fixedTriple i).green < (fixedTriple j).green + 17
      · have blue := far _ _ fun blue => ne (index_eq_of_near hj hi red green blue)
        omega
      · have := far _ _ green
        omega
    · have := far _ _ red
      omega
  omega

/-! ## The search -/

/-- What is found so far stays when every further entry is no nearer. -/
theorem closest?_spec {point : Triple Nat} {e : Entry} (entries : List Entry)
    (nearest : ∀ f ∈ entries, f ≠ e → distance e.2 point < distance f.2 point)
    (best : Option Entry)
    (start : best = some e ∨ (e ∈ entries ∧ ∀ b ∈ best, distance e.2 point < distance b.2 point)) :
    entries.foldl (fun best e =>
      match best with
      | none => some e
      | some b => if distance e.2 point < distance b.2 point then some e else some b) best =
        some e := by
  induction entries generalizing best with
  | nil => simpa using start
  | cons f rest ih =>
      rw [List.foldl_cons]
      have nearestRest := fun g hg => nearest g (List.mem_cons_of_mem f hg)
      have nearestHead := nearest f (List.mem_cons_self ..)
      apply ih nearestRest
      rcases start with rfl | ⟨member, behind⟩
      · left
        by_cases same : f = e
        · simp [same]
        · simp [(nearestHead same).le.not_gt]
      · rcases List.mem_cons.mp member with rfl | later
        · left
          cases best with
          | none => rfl
          | some b => simp [behind b rfl]
        · by_cases same : f = e
          · left
            subst same
            cases best with
            | none => rfl
            | some b => simp [behind b rfl]
          · right
            refine ⟨later, ?_⟩
            intro b hb
            cases best with
            | none =>
                obtain rfl := Option.some.inj hb
                exact nearestHead same
            | some old =>
                simp only [Option.mem_def] at hb
                split_ifs at hb
                · obtain rfl := Option.some.inj hb
                  exact nearestHead same
                · obtain rfl := Option.some.inj hb
                  exact behind _ rfl

/-- An entry inside a cube may be nearest there. -/
theorem mem_candidates {entries : List Entry} {base : Triple Nat} {e : Entry} (member : e ∈ entries)
    (inside : nearDistance e.2 base = 0) : e ∈ candidates entries base := by
  unfold candidates
  split
  · rename_i empty
    rw [List.min?_eq_none_iff, List.map_eq_nil_iff] at empty
    exact absurd member (empty ▸ List.not_mem_nil)
  · exact List.mem_filter.mpr ⟨member, by simp [inside]⟩

theorem mem_of_mem_candidates {entries : List Entry} {base : Triple Nat} {e : Entry}
    (member : e ∈ candidates entries base) : e ∈ entries := by
  unfold candidates at member
  split at member
  · simp at member
  · exact (List.mem_filter.mp member).1

/-- The cube of a value is the one with the value's base. -/
theorem chart_cube (p : Palette) (v : Triple Nat) (red : v.red < 256) (green : v.green < 256)
    (blue : v.blue < 256) :
    p.chart.cubes.getD (v.red / 32 + v.green / 32 * 8 + v.blue / 32 * 64) [] =
      candidates p.entries (v.map cubeBase) := by
  have inside : v.red / 32 + v.green / 32 * 8 + v.blue / 32 * 64 < 512 := by omega
  have redBase : (v.red / 32 + v.green / 32 * 8 + v.blue / 32 * 64) % 8 = v.red / 32 := by omega
  have greenBase : (v.red / 32 + v.green / 32 * 8 + v.blue / 32 * 64) / 8 % 8 = v.green / 32 := by
    omega
  have blueBase : (v.red / 32 + v.green / 32 * 8 + v.blue / 32 * 64) / 64 = v.blue / 32 := by omega
  simp only [chart, Array.getD_eq_getD_getElem?, Array.getElem?_ofFn, dif_pos inside,
    Option.getD_some, redBase, greenBase, blueBase, Triple.map, cubeBase]

theorem nearDistance_self (v : Triple Nat) : nearDistance v (v.map cubeBase) = 0 := by
  have own (n : Nat) : nearSquare n (cubeBase n) = 0 := by
    unfold nearSquare cubeBase
    rw [if_neg (by omega), if_neg (by omega)]
  simp [nearDistance, Triple.zip, Triple.map, Triple.sum, own]

theorem fixedTriple_lt {i : Nat} (hi : i < 256) : (fixedTriple i).red < 256 ∧
    (fixedTriple i).green < 256 ∧ (fixedTriple i).blue < 256 := by
  obtain ⟨⟨red, redRest, -⟩, ⟨green, greenRest, -⟩, ⟨blue, blueRest, -⟩⟩ := fixedTriple_spec i hi
  omega

end Palette

namespace Raster

open Palette

/-- A palette colour takes its own index. -/
theorem nearest_fixed {i : Nat} (hi : i < 256) :
    fixedChart.nearest (fixedTriple i) = (i, fixedTriple i) := by
  obtain ⟨red, green, blue⟩ := fixedTriple_lt hi
  have listed {e : Entry} (member : e ∈ Palette.fixed.entries) :
      e.1 < 256 ∧ e.2 = fixedTriple e.1 := by
    rw [entries_fixed, List.mem_map] at member
    obtain ⟨j, hj, rfl⟩ := member
    exact ⟨List.mem_range.mp hj, rfl⟩
  have own : (i, fixedTriple i) ∈ Palette.fixed.entries := by
    rw [entries_fixed, List.mem_map]
    exact ⟨i, List.mem_range.mpr hi, rfl⟩
  have found : closest? ((fixedTriple i).map cellCorner)
      (candidates Palette.fixed.entries ((fixedTriple i).map cubeBase)) =
        some (i, fixedTriple i) := by
    apply closest?_spec
    · intro e member ne
      obtain ⟨he, value⟩ := listed (mem_of_mem_candidates member)
      rw [value]
      apply distance_corner_lt hi he
      intro same
      exact ne (Prod.ext same (by rw [value, same]))
    · right
      exact ⟨mem_candidates own (nearDistance_self _), by simp⟩
  rw [Chart.nearest, fixedChart, chart_cube _ _ red green blue, found, Option.getD_some]

end Raster

end Darkroom
