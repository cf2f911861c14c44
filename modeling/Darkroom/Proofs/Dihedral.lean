/-
# Darkroom.Proofs.Dihedral -- orientation steps are the symmetries of the square

A word of rotations and flips has a value in the dihedral group of the square
(`wordSymmetry`), and that alone says what running the word makes of a picture
(`runWord_eq`): each symmetry is one of the eight ways to lay a picture, and the product
of two is one after the other (`ofSquare_mul`).  What a symmetry is to do is said about
points of the plane, with no word about how pixels are stored: a picture is turned when
each of its pixels comes from the one whose centre is moved there (`Raster.Turned`), and
one picture alone is that (`turned_iff`).

Words of one value run alike on every picture, and words of different values differ on
some picture (`runWord_eq_iff`).
-/
import Darkroom.Proofs.Restoring
import Mathlib.GroupTheory.SpecificGroups.Dihedral

namespace Darkroom

set_option autoImplicit false

open DihedralGroup

/-! ## Words -/

/-- The orientation steps. -/
inductive Letter
  | rotate90
  | rotate180
  | rotate270
  | flipH
  | flipV
  deriving DecidableEq

namespace Letter

/-- The step of a letter, built from its parameter. -/
def build : Letter → Outcome Step
  | .rotate90 => Step.rotation (.number (.int 90))
  | .rotate180 => Step.rotation (.number (.int 180))
  | .rotate270 => Step.rotation (.number (.int 270))
  | .flipH => Step.reflection (.text "h")
  | .flipV => Step.reflection (.text "v")

/-- `r k` is `k` quarter turns counter-clockwise, and `sr k` that after a mirror. -/
def symmetry : Letter → DihedralGroup 4
  | .rotate90 => r 1
  | .rotate180 => r 2
  | .rotate270 => r 3
  | .flipH => sr 0
  | .flipV => sr 2

/-- The degrees that a letter turns by, if it is no flip. -/
def degrees? : Letter → Option ℕ
  | .rotate90 => some 90
  | .rotate180 => some 180
  | .rotate270 => some 270
  | .flipH | .flipV => none

/-- An odd number of quarter turns. -/
def isSideways : Letter → Bool
  | .rotate90 | .rotate270 => true
  | .rotate180 | .flipH | .flipV => false

end Letter

/-- Run the steps of a word, the first letter first. -/
def runWord (word : List Letter) (p : Raster) : Outcome Raster :=
  word.foldlM (fun p letter => do (← letter.build).run p) p

/-- The degrees that a word turns by. -/
def totalDegrees (word : List Letter) : ℕ := (word.map fun letter => letter.degrees?.getD 0).sum

/-- The symmetry that a word comes to. -/
def wordSymmetry (word : List Letter) : DihedralGroup 4 := (word.map Letter.symmetry).prod

/-! ## Symmetries on the plane -/

/-- A quarter turn counter-clockwise. -/
def quarterMotion : Motion := fun p => (-p.2, p.1)

/-- Where a symmetry of the square takes the points of the plane. -/
def squareMotion : DihedralGroup 4 → Motion
  | .r k => quarterMotion^[k.val]
  | .sr k => quarterMotion^[k.val] ∘ fun p => (-p.1, p.2)

namespace Raster

/-- Twice the centre of a pixel, seen from the middle of the picture, the second axis
pointing up. -/
def point (p : Raster) (x y : ℕ) : ℤ × ℤ := (2 * x + 1 - p.width, p.height - 1 - 2 * y)

/-- The sides change places. -/
def sideways : DihedralGroup 4 → Bool
  | .r k | .sr k => k.val % 2 == 1

/-- A picture is another one under a symmetry: each pixel comes from the one whose point
is taken there. -/
structure Turned (g : DihedralGroup 4) (p q : Raster) : Prop where
  kind : q.SameKind p
  width : q.width = if sideways g then p.height else p.width
  height : q.height = if sideways g then p.width else p.height
  pixel : ∀ x' y', x' < q.width → y' < q.height → ∃ x y, x < p.width ∧ y < p.height ∧
    q.point x' y' = squareMotion g (p.point x y) ∧
      ∀ c < p.mode.bytes, q.byteAt x' y' c = p.byteAt x y c

end Raster

namespace Orientation

/-- The way to lay a picture under a symmetry. -/
def ofSquare : DihedralGroup 4 → Orientation
  | .r k => ofTurns (List.replicate k.val .quarterTurn)
  | .sr k => ofTurns (.mirror :: List.replicate k.val .quarterTurn)

theorem ofSquare_mul (g h : DihedralGroup 4) :
    ofSquare (g * h) = (ofSquare g).andThen (ofSquare h) := by
  revert g h
  decide

theorem ofSquare_injective : Function.Injective ofSquare := by
  unfold Function.Injective
  decide

theorem motion_quarters (g : Orientation) (k : ℕ) :
    ((List.replicate k Symmetry.quarterTurn).foldl (fun g turn => g.andThen (ofSymmetry turn))
      g).motion = quarterMotion^[k] ∘ g.motion := by
  have quarter : (ofSymmetry .quarterTurn).motion = quarterMotion := by
    funext p
    simp [motion, ofSymmetry, quarterMotion]
  induction k generalizing g with
  | zero => rfl
  | succ k ih =>
      rw [List.replicate_succ, List.foldl_cons, ih, motion_andThen, quarter, Function.iterate_succ]
      rfl

theorem motion_ofSquare (g : DihedralGroup 4) : (ofSquare g).motion = squareMotion g := by
  cases g with
  | r k => exact motion_quarters upright k.val
  | sr k => exact motion_quarters (upright.andThen (ofSymmetry .mirror)) k.val

theorem swapped_ofSquare (g : DihedralGroup 4) : (ofSquare g).swapped = Raster.sideways g := by
  revert g
  decide

/-- Motions are undone. -/
theorem motion_injective (g : Orientation) : Function.Injective g.motion := by
  have undone : g.back.motion ∘ g.motion = id := by
    rw [← motion_andThen, andThen_back]
    rfl
  exact Function.LeftInverse.injective (congrFun undone)

end Orientation

namespace Raster

variable (p : Raster) (g : Orientation)

/-- The pixel at a place of a laid picture comes from the one whose point is taken there. -/
theorem point_laid {x y : ℕ} (hx : x < (p.laid g).width) (hy : y < (p.laid g).height) :
    (p.laid g).point x y = g.motion
      (p.point (counted g.across p.width (if g.swapped then y else x))
        (counted g.down p.height (if g.swapped then x else y))) := by
  rw [laid_width] at hx
  rw [laid_height] at hy
  simp only [point, laid_width, laid_height, Orientation.motion]
  rcases g with ⟨_ | _, _ | _, _ | _⟩ <;>
    simp only [counted, Bool.false_eq_true, if_true, if_false, Prod.mk.injEq, true_and,
      and_true] at hx hy ⊢ <;>
    omega

variable {p} {q : Raster}

/-- No two pixels have one point. -/
theorem point_inj {x y x' y' : ℕ} (same : p.point x y = p.point x' y') : x = x' ∧ y = y' := by
  simp only [point, Prod.mk.injEq] at same
  omega

theorem turned_laid (p : Raster) (g : DihedralGroup 4) : Turned g p (p.laid (.ofSquare g)) := by
  refine ⟨⟨rfl, rfl, rfl⟩, ?_, ?_, fun x y hx hy => ?_⟩
  · rw [laid_width, Orientation.swapped_ofSquare]
  · rw [laid_height, Orientation.swapped_ofSquare]
  · obtain ⟨inX, inY⟩ := source_inside p _ hx hy
    refine ⟨_, _, inX, inY, ?_, fun c hc => byteAt_laid p _ hx hy hc⟩
    rw [point_laid p _ hx hy, Orientation.motion_ofSquare]

/-- There is one picture alone under a symmetry. -/
theorem turned_iff {g : DihedralGroup 4} : Turned g p q ↔ q = p.laid (.ofSquare g) := by
  constructor
  · intro turned
    have laid := turned_laid p g
    have kind := turned.kind
    have width := turned.width.trans laid.width.symm
    have height := turned.height.trans laid.height.symm
    refine ext_bytes kind.mode width height kind.palette kind.transparency fun x y c hx hy hc => ?_
    obtain ⟨x₁, y₁, -, -, to₁, byte₁⟩ := turned.pixel x y hx hy
    obtain ⟨x₂, y₂, -, -, to₂, byte₂⟩ := laid.pixel x y (width ▸ hx) (height ▸ hy)
    have place : q.point x y = (p.laid (.ofSquare g)).point x y := by
      rw [point, point, width, height]
    have source := (Orientation.motion_ofSquare g ▸ (Orientation.ofSquare g).motion_injective)
      (to₁.symm.trans (place.trans to₂))
    obtain ⟨rfl, rfl⟩ := point_inj source
    rw [kind.mode] at hc
    rw [byte₁ c hc, byte₂ c hc]
  · rintro rfl
    exact turned_laid p g

end Raster

/-! ## Running a word -/

theorem Letter.run (letter : Letter) (p : Raster) :
    (do (← letter.build).run p) = .ok (p.laid (.ofSquare letter.symmetry)) := by
  cases letter <;> rfl

/-- What running a word makes of a picture. -/
theorem runWord_eq (word : List Letter) (p : Raster) :
    runWord word p = .ok (p.laid (.ofSquare (wordSymmetry word))) := by
  induction word generalizing p with
  | nil => exact congrArg Except.ok p.laid_upright.symm
  | cons letter rest ih =>
      rw [runWord, List.foldlM_cons, letter.run, Outcome.ok_bind]
      change runWord rest _ = _
      rw [ih, Raster.laid_laid, ← Orientation.ofSquare_mul]
      rfl

/-- Words run alike on every picture just when they have one value. -/
theorem runWord_eq_iff {u v : List Letter} :
    (∀ p, runWord u p = runWord v p) ↔ wordSymmetry u = wordSymmetry v := by
  simp only [runWord_eq, Except.ok.injEq]
  constructor
  · intro alike
    suffices undone : wordSymmetry u * (wordSymmetry v)⁻¹ = 1 from mul_inv_eq_one.mp undone
    refine Orientation.ofSquare_injective ((Raster.laid_eq_self_iff _).mp fun p => ?_)
    rw [Orientation.ofSquare_mul, ← Raster.laid_laid, alike p, Raster.laid_laid,
      ← Orientation.ofSquare_mul, mul_inv_cancel]
    exact p.laid_upright
  · intro same p
    rw [same]

/-- An odd number of quarter turns changes the sides. -/
theorem sideways_wordSymmetry (word : List Letter) :
    Raster.sideways (wordSymmetry word) = true ↔ Odd (word.countP Letter.isSideways) := by
  have product : ∀ g h, Raster.sideways (g * h) = (Raster.sideways g != Raster.sideways h) := by
    decide
  have letters (letter : Letter) : Raster.sideways letter.symmetry = letter.isSideways := by
    cases letter <;> rfl
  induction word with
  | nil => decide
  | cons letter rest ih =>
      rw [wordSymmetry, List.map_cons, List.prod_cons, product, letters, List.countP_cons]
      change (letter.isSideways != Raster.sideways (wordSymmetry rest)) = true ↔ _
      cases sideways : letter.isSideways
      · simp [ih]
      · simp [Nat.odd_add_one, ← ih]

/-- Turns add up. -/
theorem wordSymmetry_of_turns {word : List Letter} (turns : ∀ l ∈ word, l.degrees?.isSome) :
    wordSymmetry word = r ((totalDegrees word / 90 : ℕ) : ZMod 4) := by
  have quarter {letter : Letter} (turn : letter.degrees?.isSome) :
      ∃ k : ℕ, letter.degrees? = some (90 * k) ∧ letter.symmetry = r (k : ZMod 4) := by
    cases letter with
    | rotate90 => exact ⟨1, rfl, rfl⟩
    | rotate180 => exact ⟨2, rfl, rfl⟩
    | rotate270 => exact ⟨3, rfl, rfl⟩
    | flipH => cases turn
    | flipV => cases turn
  induction word with
  | nil => rfl
  | cons letter rest ih =>
      obtain ⟨first, later⟩ := List.forall_mem_cons.mp turns
      obtain ⟨k, degrees, symmetry⟩ := quarter first
      have total : totalDegrees (letter :: rest) / 90 = k + totalDegrees rest / 90 := by
        rw [totalDegrees, List.map_cons, List.sum_cons, degrees, Option.getD_some,
          Nat.mul_add_div (by decide)]
        rfl
      rw [total, wordSymmetry, List.map_cons, List.prod_cons, symmetry]
      change r (k : ZMod 4) * wordSymmetry rest = _
      rw [ih later, r_mul_r, Nat.cast_add]

/-- Words of turns by the same degrees, but for full turns, run alike. -/
theorem turns_add {u v : List Letter} (turns : ∀ l ∈ u, l.degrees?.isSome)
    (turns' : ∀ l ∈ v, l.degrees?.isSome) (degrees : totalDegrees u % 360 = totalDegrees v % 360)
    (p : Raster) : runWord u p = runWord v p := by
  refine runWord_eq_iff.mpr ?_ p
  rw [wordSymmetry_of_turns turns, wordSymmetry_of_turns turns']
  refine congrArg r ((ZMod.natCast_eq_natCast_iff' _ _ 4).mpr ?_)
  omega

/-- A quarter turn takes each pixel to its place. -/
theorem rotate90_pixel (p : Raster) : ∃ q, runWord [.rotate90] p = .ok q ∧
    ∀ x y, x < p.width → y < p.height → y < q.width ∧ p.width - 1 - x < q.height ∧
      ∀ c < p.mode.bytes, q.byteAt y (p.width - 1 - x) c = p.byteAt x y c := by
  refine ⟨p.transformed .quarterTurn, rfl, fun x y hx hy => ?_⟩
  have inside : p.width - 1 - x < p.width := by omega
  refine ⟨hy, inside, fun c hc => ?_⟩
  rw [Raster.transformed, Raster.byteAt_remap hy inside hc,
    show p.width - 1 - (p.width - 1 - x) = x by omega]

/-- Orientation steps are the symmetries of the square.  A word of them runs on every
picture and makes of it the one picture that is it under the symmetry of the word; words
run alike just when they have one symmetry.  The sides change places just for an odd
number of quarter turns, a quarter turn takes the pixel at `x`, `y` to the place `y`,
`w - 1 - x`, turns add up but for full ones, flips undo themselves, and a flip turns
around the turns that it is carried past. -/
theorem words_are_symmetries :
    (∀ word p, ∃ q, runWord word p = .ok q ∧
      ∀ s, Raster.Turned (wordSymmetry word) p s ↔ s = q) ∧
    (∀ u v, (∀ p, runWord u p = runWord v p) ↔ wordSymmetry u = wordSymmetry v) ∧
    (∀ word p q, runWord word p = .ok q →
      q.width = (if Odd (word.countP Letter.isSideways) then p.height else p.width) ∧
      q.height = if Odd (word.countP Letter.isSideways) then p.width else p.height) ∧
    (∀ p, ∃ q, runWord [.rotate90] p = .ok q ∧
      ∀ x y, x < p.width → y < p.height → y < q.width ∧ p.width - 1 - x < q.height ∧
        ∀ c < p.mode.bytes, q.byteAt y (p.width - 1 - x) c = p.byteAt x y c) ∧
    (∀ u v : List Letter, (∀ l ∈ u, l.degrees?.isSome) → (∀ l ∈ v, l.degrees?.isSome) →
      totalDegrees u % 360 = totalDegrees v % 360 → ∀ p, runWord u p = runWord v p) ∧
    ∀ p, runWord [.flipH, .flipH] p = .ok p ∧ runWord [.flipV, .flipV] p = .ok p ∧
      runWord [.rotate90, .flipH] p = runWord [.flipH, .rotate270] p ∧
      runWord [.flipV] p = runWord [.flipH, .rotate180] p := by
  have alike {u v : List Letter} (same : wordSymmetry u = wordSymmetry v) (p : Raster) :
      runWord u p = runWord v p := runWord_eq_iff.mpr same p
  refine ⟨fun word p => ⟨_, runWord_eq word p, fun s => Raster.turned_iff⟩,
    fun u v => runWord_eq_iff, fun word p q ran => ?_, rotate90_pixel,
    fun u v turns turns' degrees p => turns_add turns turns' degrees p, fun p =>
    ⟨alike (v := []) (by decide) p, alike (v := []) (by decide) p, alike (by decide) p,
      alike (by decide) p⟩⟩
  obtain rfl := Except.ok.inj ((runWord_eq word p).symm.trans ran)
  have turned := Raster.turned_laid p (wordSymmetry word)
  simp only [← sideways_wordSymmetry]
  exact ⟨turned.width, turned.height⟩

end Darkroom
