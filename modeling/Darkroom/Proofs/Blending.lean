/-
# Darkroom.Proofs.Blending -- a blend over an opaque pixel

Over an opaque pixel the exact blend of two channels is a sum of 255ths, and the bits
kept on the way are enough to round it to the nearest byte (`toNat_channel_above`).
So a channel stays between the two that are blended (`mixed_between`), and it moves no
further than the alpha of the upper pixel lets it, give or take half a step of rounding
(`mixed_moved`).
-/
import Darkroom.Proofs.Pixels
import Mathlib.Algebra.Order.Ring.Abs
import Mathlib.Data.Rat.Cast.Order
import Mathlib.Tactic.Linarith
import Mathlib.Tactic.Ring

namespace Darkroom.Rgba

set_option autoImplicit false

/-- The byte nearest to `alpha` 255ths of one byte and the rest of another. -/
def mixed (alpha top below : Nat) : Nat := (alpha * top + (255 - alpha) * below + 127) / 255

section Mixed

variable {alpha top below : Nat}

/-- Mixing rounds to the nearest whole number. -/
theorem mixed_near (alpha top below : Nat) :
    255 * mixed alpha top below ≤ alpha * top + (255 - alpha) * below + 127 ∧
      alpha * top + (255 - alpha) * below ≤ 255 * mixed alpha top below + 127 := by
  unfold mixed
  omega

theorem mixed_between (share : alpha ≤ 255) :
    min top below ≤ mixed alpha top below ∧ mixed alpha top below ≤ max top below := by
  have whole (v : Nat) : alpha * v + (255 - alpha) * v = 255 * v := by
    rw [← Nat.add_mul, Nat.add_sub_of_le share]
  obtain ⟨high, low⟩ := mixed_near alpha top below
  constructor
  · have upper := Nat.mul_le_mul_left alpha (min_le_left top below)
    have lower := Nat.mul_le_mul_left (255 - alpha) (min_le_right top below)
    have := whole (min top below)
    omega
  · have upper := Nat.mul_le_mul_left alpha (le_max_left top below)
    have lower := Nat.mul_le_mul_left (255 - alpha) (le_max_right top below)
    have := whole (max top below)
    omega

/-- A mixed byte is no further from the lower one than the share of the upper one lets
it go, and half a step. -/
theorem mixed_moved (share : alpha ≤ 255) :
    |(mixed alpha top below : ℚ) - below| ≤ alpha * |(top : ℚ) - below| / 255 + 1 / 2 := by
  obtain ⟨high, low⟩ := mixed_near alpha top below
  have rest : ((255 - alpha : ℕ) : ℚ) = 255 - alpha := by
    rw [Nat.cast_sub share, Nat.cast_ofNat]
  rw [← @Nat.cast_le ℚ] at high low
  push_cast [rest] at high low
  have rounding : |255 * ((mixed alpha top below : ℚ) - below) - alpha * (top - below)| ≤ 127 := by
    rw [abs_le]
    constructor <;> linarith
  have total : 255 * |(mixed alpha top below : ℚ) - below| ≤ alpha * |(top : ℚ) - below| + 127 :=
    calc 255 * |(mixed alpha top below : ℚ) - below|
        = |255 * ((mixed alpha top below : ℚ) - below)| := by rw [abs_mul, Nat.abs_ofNat]
      _ = |alpha * ((top : ℚ) - below) +
            (255 * ((mixed alpha top below : ℚ) - below) - alpha * (top - below))| := by
          rw [add_sub_cancel]
      _ ≤ |alpha * ((top : ℚ) - below)| + 127 := (abs_add_le _ _).trans (by linarith)
      _ = alpha * |(top : ℚ) - below| + 127 := by rw [abs_mul, Nat.abs_cast]
  linarith

/-- What a byte may become when a share of another one is laid over it: it stays between
the two, and is moved by no more than the share, and half a step of rounding. -/
structure Moved (share top below result : Nat) : Prop where
  between : min top below ≤ result ∧ result ≤ max top below
  little : |(result : ℚ) - below| ≤ share * |(top : ℚ) - below| / 255 + 1 / 2

theorem moved_mixed (share : alpha ≤ 255) : Moved alpha top below (mixed alpha top below) :=
  ⟨mixed_between share, mixed_moved share⟩

end Mixed

variable {below : Rgba}

/-- The bits that are kept on the way are enough. -/
theorem shed_rounded {v : Nat} (inside : v ≤ 255 * 255) :
    shed (v * 128 + 128 * 128) / 128 = (v + 127) / 255 := by
  unfold shed
  omega

/-- Over an opaque pixel two bytes are blended to their mixed byte. -/
theorem toNat_blend {alpha : Nat} (share : alpha ≤ 255) (s d : UInt8) :
    (UInt8.ofNat (shed (s.toNat * (alpha * 128) + d.toNat * ((255 - alpha) * 128) + 128 * 128) /
      128)).toNat = mixed alpha s.toNat d.toNat := by
  have sum : s.toNat * (alpha * 128) + d.toNat * ((255 - alpha) * 128) =
      (alpha * s.toNat + (255 - alpha) * d.toNat) * 128 := by ring
  have inside : alpha * s.toNat + (255 - alpha) * d.toNat ≤ 255 * 255 := by
    have upper := Nat.mul_le_mul_left alpha (Nat.le_of_lt_succ s.toNat_lt)
    have lower := Nat.mul_le_mul_left (255 - alpha) (Nat.le_of_lt_succ d.toNat_lt)
    omega
  have byte : mixed alpha s.toNat d.toNat < 2 ^ 8 :=
    (mixed_between share).2.trans_lt (max_lt s.toNat_lt d.toNat_lt)
  rw [sum, shed_rounded inside, ← mixed, UInt8.toNat_ofNat', Nat.mod_eq_of_lt byte]

/-- Over an opaque pixel the result is opaque, and every channel is mixed by the alpha of
the upper pixel. -/
theorem above_solid {below : Rgba} (solid : below.alpha = 255) (top : Rgba) :
    (top.above below).alpha = 255 ∧ ∀ c < 3, ((top.above below).channel c).toNat =
      mixed top.alpha.toNat (top.channel c).toNat (below.channel c).toNat := by
  by_cases clear : top.alpha = 0
  case pos =>
    rw [above_of_clear clear, clear]
    refine ⟨solid, fun c _ => ?_⟩
    simp only [mixed, UInt8.toNat_zero]
    omega
  case neg =>
    have share : top.alpha.toNat ≤ 255 := Nat.le_of_lt_succ top.alpha.toNat_lt
    have sum : top.alpha.toNat * 255 + 255 * (255 - top.alpha.toNat) = 255 * 255 := by omega
    have topShare : top.alpha.toNat * 255 * 255 * 128 / (255 * 255) = top.alpha.toNat * 128 := by
      omega
    have belowShare : 255 * 128 - top.alpha.toNat * 128 = (255 - top.alpha.toNat) * 128 := by omega
    rw [above, if_neg clear]
    simp only [solid, UInt8.reduceToNat, sum, topShare, belowShare]
    refine ⟨by decide, fun c color => ?_⟩
    obtain rfl | rfl | rfl : c = 0 ∨ c = 1 ∨ c = 2 := by omega
    · exact toNat_blend share top.red below.red
    · exact toNat_blend share top.green below.green
    · exact toNat_blend share top.blue below.blue

end Darkroom.Rgba
