/-
# Darkroom.Proofs.Motions -- requests that turn a picture over

A request that turns a picture over names a motion of the plane (`Motion.Named`), and
nothing is said there of how pixels are stored.  Such requests, and no others, are built
into an orientation step (`Motion.named_iff`), which lays a picture as the motion says
(`Motion.Named.built`).
-/
import Darkroom.Proofs.Orientation
import Darkroom.Proofs.Request

namespace Darkroom

set_option autoImplicit false

/-! ## Motions -/

/-- A motion of the plane about its origin, the second axis pointing up. -/
abbrev Motion := ℤ × ℤ → ℤ × ℤ

/-- The motion that a request names: a turn goes counter-clockwise. -/
inductive Motion.Named : Operation → Options → Motion → Prop
  | quarter {o : Options} {n : Number} (given : o.degree.number? = some n)
      (degrees : n.toRat? = some 90) : Named .rotate o fun p => (-p.2, p.1)
  | half {o : Options} {n : Number} (given : o.degree.number? = some n)
      (degrees : n.toRat? = some 180) : Named .rotate o fun p => (-p.1, -p.2)
  | threeQuarters {o : Options} {n : Number} (given : o.degree.number? = some n)
      (degrees : n.toRat? = some 270) : Named .rotate o fun p => (p.2, -p.1)
  | horizontal {o : Options} (given : o.position = .text "h") : Named .flip o fun p => (-p.1, p.2)
  | vertical {o : Options} (given : o.position = .text "v") : Named .flip o fun p => (p.1, -p.2)

/-- A list of motions, the first one first. -/
def Motion.composed (motions : List Motion) : Motion := motions.foldr (fun m rest => rest ∘ m) id

namespace Orientation

/-- Where the points of a picture go when it is laid. -/
def motion (g : Orientation) : Motion := fun p =>
  let across := if g.across then -p.1 else p.1
  let down := if g.down then -p.2 else p.2
  if g.swapped then (-down, -across) else (across, down)

theorem motion_andThen (g t : Orientation) : (g.andThen t).motion = t.motion ∘ g.motion := by
  funext p
  rcases g with ⟨_ | _, _ | _, _ | _⟩ <;> rcases t with ⟨_ | _, _ | _, _ | _⟩ <;>
    simp [motion, andThen]

/-- Only the upright orientation leaves every point where it is. -/
theorem motion_eq_id {g : Orientation} (still : g.motion = id) : g = upright := by
  have moved := congrFun still (1, 2)
  rcases g with ⟨_ | _, _ | _, _ | _⟩ <;> first | rfl | simp [motion] at moved

end Orientation

/-! ## Steps -/

/-- To be the same as a whole number is to have its value. -/
theorem Number.same_int {n : Number} {k : ℤ} : n.same (.int k) = true ↔ n.toRat? = some (k : ℚ) := by
  have finite {q : ℚ} : (!decide ((k : ℚ) < q) && !decide (q < k)) = true ↔ q = k := by
    simp [← le_antisymm_iff]
  cases n with
  | int m => simp [same, le, lt, isNan, toRat?]; omega
  | real x =>
      cases x with
      | finite q => exact finite.trans (by simp [toRat?, Double.toRat?])
      | negZero => exact finite.trans (by simp [toRat?, Double.toRat?])
      | infinite negative => cases negative <;> simp [same, le, lt, isNan, toRat?, Double.toRat?]
      | nan => simp [same, le, isNan, toRat?, Double.toRat?]

namespace Motion

/-- A request that names a motion is built into a step that lays a picture that way. -/
theorem Named.built {operation : Operation} {o : Options} {motion : Motion}
    (named : Named operation o motion) : ∃ step turn,
      Step.build (.text operation.name) o = .ok step ∧ step.turn? = some turn ∧
        (Orientation.ofSymmetry turn).motion = motion := by
  rw [Step.build_name]
  have turned {degree : Value} {n : Number} (given : degree.number? = some n) (turn : Symmetry)
      {k : ℤ} (degrees : n.toRat? = some (k : ℚ))
      (told : (k, turn) ∈ [(90, Symmetry.quarterTurn), (180, .halfTurn), (270, .threeQuarterTurn)]) :
      Step.rotation degree = .ok (.rotate degree turn) := by
    have other (j : ℤ) : n.same (.int j) = decide (j = k) := by
      rw [Bool.eq_iff_iff, Number.same_int, degrees, decide_eq_true_iff]
      simp [eq_comm]
    rw [Step.rotation, Step.turnOf?, given]
    simp only [other]
    simp only [List.mem_cons, Prod.mk.injEq, List.not_mem_nil, or_false] at told
    rcases told with ⟨rfl, rfl⟩ | ⟨rfl, rfl⟩ | ⟨rfl, rfl⟩ <;> rfl
  cases named with
  | quarter given degrees =>
      refine ⟨_, .quarterTurn, turned given _ degrees (by decide), rfl, ?_⟩
      funext p
      simp [Orientation.motion, Orientation.ofSymmetry]
  | half given degrees =>
      exact ⟨_, .halfTurn, turned given _ degrees (by decide), rfl, rfl⟩
  | threeQuarters given degrees =>
      refine ⟨_, .threeQuarterTurn, turned given _ degrees (by decide), rfl, ?_⟩
      funext p
      simp [Orientation.motion, Orientation.ofSymmetry]
  | horizontal given =>
      refine ⟨.flip o.position .mirror, .mirror, ?_, rfl, rfl⟩
      simp only [Step.ofOperation, Step.reflection, given, Step.mirrorOf?]
  | vertical given =>
      refine ⟨.flip o.position .upsideDown, .upsideDown, ?_, rfl, rfl⟩
      simp only [Step.ofOperation, Step.reflection, given, Step.mirrorOf?]

/-- Requests for an orientation step are just those that name a motion. -/
theorem named_iff {operation : Operation} {o : Options} : (∃ motion, Named operation o motion) ↔
    ∃ step turn, Step.build (.text operation.name) o = .ok step ∧ step.turn? = some turn := by
  constructor
  · rintro ⟨motion, named⟩
    obtain ⟨step, turn, built, turns, -⟩ := named.built
    exact ⟨step, turn, built, turns⟩
  · rintro ⟨step, turn, built, turns⟩
    rw [Step.build_name] at built
    cases operation with
    | resize | thumbnail | fit =>
        obtain rfl := Except.ok.inj built
        cases turns
    | rotate =>
        rw [Step.ofOperation, Step.rotation, Step.turnOf?] at built
        cases given : o.degree.number? with
        | none => simp [given] at built
        | some n =>
            simp only [given] at built
            split_ifs at built with quarter half threeQuarters
            · exact ⟨_, .quarter given (Number.same_int.mp quarter)⟩
            · exact ⟨_, .half given (Number.same_int.mp half)⟩
            · exact ⟨_, .threeQuarters given (Number.same_int.mp threeQuarters)⟩
    | flip =>
        rw [Step.ofOperation, Step.reflection] at built
        cases axis : Step.mirrorOf? o.position with
        | none => simp [axis] at built
        | some turn =>
            unfold Step.mirrorOf? at axis
            split at axis
            case h_1 horizontal => exact ⟨_, .horizontal horizontal⟩
            case h_2 vertical => exact ⟨_, .vertical vertical⟩
            case h_3 => cases axis

end Motion

end Darkroom
