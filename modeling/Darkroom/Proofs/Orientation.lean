/-
# Darkroom.Proofs.Orientation -- the eight ways to lay a picture

An `Orientation` says whether rows and columns change places and on which axes
the places are counted from the far end.  Laying a picture twice is laying it
once in the composed way (`laid_laid`).  The upright one leaves every picture as
it is, and no other one does (`laid_eq_self_iff`).
-/
import Darkroom.Proofs.Pixels

namespace Darkroom

set_option autoImplicit false

structure Orientation where
  /-- Rows and columns change places. -/
  swapped : Bool
  /-- The columns of the source are counted from the right. -/
  across : Bool
  /-- The rows of the source are counted from the bottom. -/
  down : Bool
  deriving DecidableEq

/-- A place among `n`, counted from the far end or not. -/
def counted (far : Bool) (n x : Nat) : Nat := if far then n - 1 - x else x

theorem counted_lt {far : Bool} {n x : Nat} (inside : x < n) : counted far n x < n := by
  unfold counted
  split <;> omega

theorem counted_counted (a b : Bool) {n x : Nat} (inside : x < n) :
    counted a n (counted b n x) = counted (a != b) n x := by
  cases a <;> cases b <;> simp [counted]
  omega

namespace Orientation

def upright : Orientation := ⟨false, false, false⟩

def ofSymmetry : Symmetry → Orientation
  | .quarterTurn => ⟨true, true, false⟩
  | .halfTurn => ⟨false, true, true⟩
  | .threeQuarterTurn => ⟨true, false, true⟩
  | .mirror => ⟨false, true, false⟩
  | .upsideDown => ⟨false, false, true⟩

/-- One after the other. -/
def andThen (g t : Orientation) : Orientation where
  swapped := g.swapped != t.swapped
  across := g.across != if g.swapped then t.down else t.across
  down := g.down != if g.swapped then t.across else t.down

/-- The way back. -/
def back (g : Orientation) : Orientation where
  swapped := g.swapped
  across := if g.swapped then g.down else g.across
  down := if g.swapped then g.across else g.down

theorem andThen_back (g : Orientation) : g.andThen g.back = upright := by
  rcases g with ⟨_ | _, _ | _, _ | _⟩ <;> rfl

/-- What a run of turns comes to. -/
def ofTurns (turns : List Symmetry) : Orientation :=
  turns.foldl (fun g turn => g.andThen (ofSymmetry turn)) upright

end Orientation

namespace Raster

/-- The picture laid in one of the eight ways. -/
def laid (r : Raster) (g : Orientation) : Raster :=
  r.remap (if g.swapped then r.height else r.width) (if g.swapped then r.width else r.height)
    fun x y c => r.byteAt (counted g.across r.width (if g.swapped then y else x))
      (counted g.down r.height (if g.swapped then x else y)) c

variable (r : Raster) (g t : Orientation)

@[simp] theorem laid_mode : (r.laid g).mode = r.mode := rfl

@[simp] theorem laid_palette : (r.laid g).palette = r.palette := rfl

@[simp] theorem laid_transparency : (r.laid g).transparency = r.transparency := rfl

theorem laid_width : (r.laid g).width = if g.swapped then r.height else r.width := rfl

theorem laid_height : (r.laid g).height = if g.swapped then r.width else r.height := rfl

theorem transformed_eq_laid (turn : Symmetry) :
    r.transformed turn = r.laid (.ofSymmetry turn) := by
  cases turn <;> rfl

theorem laid_upright : r.laid .upright = r := remap_self r

theorem byteAt_laid {x y c : Nat} (hx : x < (r.laid g).width) (hy : y < (r.laid g).height)
    (hc : c < r.mode.bytes) : (r.laid g).byteAt x y c =
      r.byteAt (counted g.across r.width (if g.swapped then y else x))
        (counted g.down r.height (if g.swapped then x else y)) c :=
  byteAt_remap hx hy hc

/-- The place that a pixel comes from lies within the picture. -/
theorem source_inside {x y : Nat} (hx : x < (r.laid g).width) (hy : y < (r.laid g).height) :
    counted g.across r.width (if g.swapped then y else x) < r.width ∧
      counted g.down r.height (if g.swapped then x else y) < r.height := by
  rw [laid_width] at hx
  rw [laid_height] at hy
  cases swapped : g.swapped <;> simp only [swapped, Bool.false_eq_true, if_true, if_false] at hx hy
  · exact ⟨counted_lt hx, counted_lt hy⟩
  · exact ⟨counted_lt hy, counted_lt hx⟩

theorem laid_laid : (r.laid g).laid t = r.laid (g.andThen t) := by
  have width : ((r.laid g).laid t).width = (r.laid (g.andThen t)).width := by
    cases one : g.swapped <;> cases two : t.swapped <;>
      simp [laid_width, laid_height, Orientation.andThen, one, two]
  have height : ((r.laid g).laid t).height = (r.laid (g.andThen t)).height := by
    cases one : g.swapped <;> cases two : t.swapped <;>
      simp [laid_width, laid_height, Orientation.andThen, one, two]
  refine ext_bytes rfl width height rfl rfl fun x y c hx hy hc => ?_
  rw [byteAt_laid (r.laid g) t hx hy hc, byteAt_laid r (g.andThen t) (width ▸ hx) (height ▸ hy) hc]
  rw [laid_width, laid_width, laid_height] at hx
  rw [laid_height, laid_width, laid_height] at hy
  cases one : g.swapped <;> cases two : t.swapped <;>
    simp only [one, two, Bool.false_eq_true, if_true, if_false] at hx hy
  all_goals
    rw [byteAt_laid r g (by simp [laid_width, one, counted_lt, hx, hy])
      (by simp [laid_height, one, counted_lt, hx, hy]) hc]
    simp [Orientation.andThen, laid_width, laid_height, one, two, counted_counted, hx, hy]

/-- Laying is undone, so it never makes two pictures one. -/
theorem laid_injective {r s : Raster} (same : r.laid g = s.laid g) : r = s := by
  have undone := congrArg (Raster.laid · g.back) same
  simpa only [laid_laid, Orientation.andThen_back, laid_upright] using undone

/-- Six pixels that are all different. -/
def sixPixels : Raster := tabulate .gray 2 3 fun x y _ => UInt8.ofNat (2 * y + x)

/-- Only the upright orientation leaves every picture as it is. -/
theorem laid_eq_self_iff : (∀ r : Raster, r.laid g = r) ↔ g = .upright := by
  constructor
  · intro same
    have bytes := congrArg Raster.data (same sixPixels)
    have told : ∀ across down swapped,
        (sixPixels.laid ⟨swapped, across, down⟩).data = sixPixels.data →
          (⟨swapped, across, down⟩ : Orientation) = .upright := by
      decide +kernel
    exact told g.across g.down g.swapped bytes
  · rintro rfl r
    exact r.laid_upright

end Raster

end Darkroom
