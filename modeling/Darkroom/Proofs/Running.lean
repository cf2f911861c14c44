/-
# Darkroom.Proofs.Running -- what a step makes of a picture

Whether a step runs on a picture is one question, `Step.runsOn`: the orientation
steps always do, and a resample step does where the policy lets it.  The answer
hangs on the size of the picture alone (`runsOn_congr`), and for whole sides it
is exact (`runsOn_iff`).

A step keeps the kind of a picture (`run_sameKind`).  Resizing and filling give the
sides asked for (`run_asked`), with a zero side derived; fitting stays inside the
picture (`run_boxed`).  Whether a step succeeds hangs on the size of the picture
too (`run_accepts`).
-/
import Darkroom.Proofs.Fitting
import Darkroom.Proofs.Pixels
import Darkroom.Proofs.Resampling
import Darkroom.Proofs.Sides

namespace Darkroom

set_option autoImplicit false

namespace Step

variable {step : Step} {o : Options} {r s p : Raster} {width height : Value} {w h : ℕ}

/-! ## Turns and resamples -/

/-- The symmetry of an orientation step. -/
def turn? : Step → Option Symmetry
  | .rotate _ turn | .flip _ turn => some turn
  | .resize _ _ | .thumbnail _ _ | .fit _ _ => none

/-- The sides that a resample step was given. -/
def sides? : Step → Option (Value × Value)
  | .resize width height | .thumbnail width height | .fit width height => some (width, height)
  | .rotate _ _ | .flip _ _ => none

/-- A resample step on a picture with its sides settled. -/
def drawn (step : Step) (r : Raster) (w h : Number) : Outcome Raster :=
  match step with
  | .resize _ _ => r.resized .lanczos (.whole r) w h
  | .thumbnail _ _ => do r.resized .lanczos (← coverRegion r w h) w h
  | .fit _ _ => do
      match ← fitSides r.width r.height w h with
      | none => return r
      | some (w, h) => r.resized .lanczos (.whole r) w h
  | .rotate _ _ | .flip _ _ => .ok r

theorem turn_or_sides (step : Step) :
    (∃ turn, step.turn? = some turn) ∨ ∃ width height, step.sides? = some (width, height) := by
  cases step <;> simp [turn?, sides?]

theorem resamples_of_turn {turn : Symmetry} (turns : step.turn? = some turn) :
    step.resamples = false := by
  cases step <;> first | rfl | cases turns

theorem resamples_of_sides (given : step.sides? = some (width, height)) :
    step.resamples = true := by
  cases step <;> first | rfl | cases given

theorem run_of_turn {turn : Symmetry} (turns : step.turn? = some turn) (r : Raster) :
    step.run r = .ok (r.transformed turn) := by
  cases step <;> cases turns <;> rfl

theorem run_of_sides (given : step.sides? = some (width, height)) (r : Raster) :
    step.run r = (do
      match ← targetSides width height r with
      | none => return r
      | some (a, b) => step.drawn r (← a.toNumber) (← b.toNumber)) := by
  cases step <;> cases given <;> rfl

/-! ## The decision -/

/-- Whether a step runs on a picture or leaves it as it is. -/
def runsOn (step : Step) (o : Options) (r : Raster) : Outcome Bool :=
  if step.resamples then do return Scaling.runs (← policyFactor o r) o.upscale.truthy else .ok true

theorem runScaled_outcome (step : Step) (o : Options) (r : Raster) :
    (step.runScaled o r).outcome = (do if ← step.runsOn o r then step.run r else return r) := by
  unfold runScaled runsOn
  cases step.resamples
  case false => simp
  case true =>
    cases policyFactor o r with
    | error fault => simp
    | ok factor => cases runs : Scaling.runs factor o.upscale.truthy <;> simp [runs]

theorem policyFactor_congr (o : Options) (width : s.width = r.width)
    (height : s.height = r.height) :
    policyFactor o s = policyFactor o r := by
  rw [policyFactor, policyFactor, width, height]

theorem runsOn_congr (step : Step) (o : Options) (width : s.width = r.width)
    (height : s.height = r.height) : step.runsOn o s = step.runsOn o r := by
  rw [runsOn, runsOn, policyFactor_congr o width height]

/-- The policy is not asked about a picture without pixels. -/
theorem sides_pos_of_runsOn (resampling : step.resamples = true) {b : Bool}
    (decided : step.runsOn o r = .ok b) : 0 < r.width ∧ 0 < r.height := by
  rw [runsOn, if_pos resampling, Outcome.bind_eq_ok] at decided
  obtain ⟨factor, found, -⟩ := decided
  exact Scaling.sides_pos_of_factor found

/-- A resample runs exactly when both sides asked for are shorter than those of
the picture, or when enlarging is allowed. -/
theorem runsOn_iff (resampling : step.resamples = true) (asks : o.Asks w h)
    (narrow : r.width < 2 ^ 31) (low : r.height < 2 ^ 31) {b : Bool}
    (decided : step.runsOn o r = .ok b) :
    b = true ↔ w < r.width ∧ h < r.height ∨ o.upscale.truthy = true := by
  obtain ⟨wide, tall⟩ := sides_pos_of_runsOn resampling decided
  rw [runsOn, if_pos resampling, Outcome.bind_eq_ok] at decided
  obtain ⟨factor, found, result⟩ := decided
  rw [← Except.ok.inj result]
  exact Scaling.runs_iff wide tall (by omega) (by omega) asks.width asks.height found _

/-- Only a resample is ever declined. -/
theorem resamples_of_declined (declined : step.runsOn o r = .ok false) :
    step.resamples = true := by
  by_contra turns
  rw [runsOn, if_neg turns] at declined
  cases declined

/-- Where enlarging is allowed nothing is declined. -/
theorem not_declined_of_upscale (step : Step) (allowed : o.upscale.truthy = true) (r : Raster) :
    step.runsOn o r ≠ .ok false := by
  rw [runsOn, allowed]
  intro declined
  split_ifs at declined
  · obtain ⟨factor, -, off⟩ := Outcome.bind_eq_ok.mp declined
    simp [Scaling.runs] at off
  · cases declined

/-- Ratios within the finite range leave a resample no reason to fail before it is decided. -/
theorem runsOn_found (step : Step) (asks : o.Asks w h) (wide : 0 < r.width) (tall : 0 < r.height)
    (fitsAcross : (w : ℚ) / r.width ≤ Number.largestDouble)
    (fitsDown : (h : ℚ) / r.height ≤ Number.largestDouble) : ∃ b, step.runsOn o r = .ok b := by
  obtain ⟨factor, found⟩ :=
    Scaling.factor_found wide tall asks.width asks.height fitsAcross fitsDown
  unfold runsOn policyFactor
  rw [found]
  split
  · exact ⟨_, rfl⟩
  · exact ⟨true, rfl⟩

/-! ## The sides -/

/-- Both sides zero leave a picture alone; any others are settled on it. -/
theorem targetSides_eq_ok {sides : Option (Value × Value)}
    (asksWidth : width.number? = some (.int w)) (asksHeight : height.number? = some (.int h))
    (settled : targetSides width height r = .ok sides) :
    if w = 0 ∧ h = 0 then sides = none
    else ∃ (a b : Value) (x y : ℤ), sides = some (a, b) ∧
      Options.askedSides w h r.width r.height = .ok (x, y) ∧ a.toNumber = .ok (.int x) ∧
      b.toNumber = .ok (.int y) := by
  obtain ⟨⟨a, b⟩, resolved, result⟩ := Outcome.bind_eq_ok.mp settled
  have asks : Options.Asks { width := width, height := height } w h := ⟨asksWidth, asksHeight⟩
  have found := Options.resolvedSides_eq_ok asks resolved
  by_cases nothing : w = 0 ∧ h = 0
  · rw [if_pos nothing] at found ⊢
    obtain ⟨rfl, rfl⟩ := found
    simp only [Options.isZero_of_number? asksWidth, Options.isZero_of_number? asksHeight, nothing,
      decide_true, Bool.and_self, if_true] at result
    exact (Except.ok.inj result).symm
  · rw [if_neg nothing] at found ⊢
    obtain ⟨x, y, asked, ofA, ofB⟩ := found
    obtain ⟨x1, y1⟩ := Options.one_le_askedSides nothing asked
    lift x to ℕ using by omega
    lift y to ℕ using by omega
    simp only [Options.isZero_of_number? ofA, Options.isZero_of_number? ofB,
      decide_eq_false (show ¬x = 0 by omega), Bool.false_and, Bool.false_eq_true,
      if_false] at result
    exact ⟨a, b, x, y, (Except.ok.inj result).symm, asked, Value.toNumber_of_number? ofA,
      Value.toNumber_of_number? ofB⟩

theorem targetSides_found {x y : ℤ} (asksWidth : width.number? = some (.int w))
    (asksHeight : height.number? = some (.int h))
    (asked : Options.askedSides w h r.width r.height = .ok (x, y)) :
    ∃ sides, targetSides width height r = .ok sides := by
  have asks : Options.Asks { width := width, height := height } w h := ⟨asksWidth, asksHeight⟩
  obtain ⟨sides, resolved⟩ := Options.resolvedSides_found asks asked
  rw [targetSides, resolved, Outcome.ok_bind]
  dsimp only
  split <;> exact ⟨_, rfl⟩

/-! ## What comes out -/

theorem drawn_sameKind {a b : Number} (made : step.drawn r a b = .ok p) : p.SameKind r := by
  cases step
  case resize width height => exact Raster.resized_sameKind made
  case thumbnail width height =>
    obtain ⟨region, -, made⟩ := Outcome.bind_eq_ok.mp made
    exact Raster.resized_sameKind made
  case fit width height =>
    obtain ⟨box, -, made⟩ := Outcome.bind_eq_ok.mp made
    rcases box with - | ⟨a, b⟩
    · rw [Except.ok.inj made]
      exact .refl p
    · exact Raster.resized_sameKind made
  case rotate | flip =>
    rw [Except.ok.inj made]
    exact .refl p

/-- A step keeps the kind of a picture. -/
theorem run_sameKind (made : step.run r = .ok p) : p.SameKind r := by
  rcases step.turn_or_sides with ⟨turn, turns⟩ | ⟨width, height, given⟩
  · rw [run_of_turn turns] at made
    rw [← Except.ok.inj made]
    exact Raster.sameKind_transformed r turn
  · rw [run_of_sides given] at made
    obtain ⟨sides, -, made⟩ := Outcome.bind_eq_ok.mp made
    rcases sides with - | ⟨a, b⟩
    · rw [Except.ok.inj made]
      exact .refl p
    · obtain ⟨x, -, made⟩ := Outcome.bind_eq_ok.mp made
      obtain ⟨y, -, made⟩ := Outcome.bind_eq_ok.mp made
      exact drawn_sameKind made

theorem run_mode (made : step.run r = .ok p) : p.mode = r.mode := (run_sameKind made).mode

theorem runScaled_sameKind (made : (step.runScaled o r).outcome = .ok p) : p.SameKind r := by
  rw [runScaled_outcome] at made
  obtain ⟨runs, -, made⟩ := Outcome.bind_eq_ok.mp made
  split_ifs at made
  · exact run_sameKind made
  · rw [Except.ok.inj made]
    exact .refl p

theorem runScaled_mode (made : (step.runScaled o r).outcome = .ok p) : p.mode = r.mode :=
  (runScaled_sameKind made).mode

theorem drawn_accepts {a b : Number} (mode : s.mode = r.mode) (width : s.width = r.width)
    (height : s.height = r.height) (made : step.drawn r a b = .ok p) :
    ∃ q, step.drawn s a b = .ok q ∧ q.width = p.width ∧ q.height = p.height := by
  have region : Region.whole s = Region.whole r := by rw [Region.whole, Region.whole, width, height]
  cases step
  case resize =>
    rw [drawn, region]
    exact Raster.resized_accepts mode width height made
  case thumbnail =>
    have cover : coverRegion s a b = coverRegion r a b := by
      rw [coverRegion, coverRegion, width, height]
    obtain ⟨cut, found, made⟩ := Outcome.bind_eq_ok.mp made
    rw [drawn, cover, found]
    exact Raster.resized_accepts mode width height made
  case fit =>
    obtain ⟨box, found, made⟩ := Outcome.bind_eq_ok.mp made
    rw [drawn, width, height, found, region]
    rcases box with - | ⟨a, b⟩
    · obtain rfl := Except.ok.inj made
      exact ⟨s, rfl, width, height⟩
    · exact Raster.resized_accepts mode width height made
  case rotate | flip =>
    obtain rfl := Except.ok.inj made
    exact ⟨s, rfl, width, height⟩

/-- Whether a step succeeds, and what size comes out, hangs on the mode and the size of
the picture alone. -/
theorem run_accepts (mode : s.mode = r.mode) (width : s.width = r.width)
    (height : s.height = r.height) (made : step.run r = .ok p) :
    ∃ q, step.run s = .ok q ∧ q.width = p.width ∧ q.height = p.height := by
  rcases step.turn_or_sides with ⟨turn, turns⟩ | ⟨asksWidth, asksHeight, given⟩
  · rw [run_of_turn turns] at made ⊢
    obtain rfl := Except.ok.inj made
    exact ⟨_, rfl, by cases turn <;> assumption, by cases turn <;> assumption⟩
  · rw [run_of_sides given] at made ⊢
    have target : targetSides asksWidth asksHeight s = targetSides asksWidth asksHeight r := by
      rw [targetSides, targetSides, width, height]
    obtain ⟨sides, found, made⟩ := Outcome.bind_eq_ok.mp made
    rw [target, found]
    rcases sides with - | ⟨a, b⟩
    · obtain rfl := Except.ok.inj made
      exact ⟨s, rfl, width, height⟩
    · obtain ⟨x, foundX, made⟩ := Outcome.bind_eq_ok.mp made
      obtain ⟨y, foundY, made⟩ := Outcome.bind_eq_ok.mp made
      simp only [Outcome.ok_bind, foundX, foundY]
      exact drawn_accepts mode width height made

/-! ## The size -/

/-- A step that gives the sides asked for. -/
def fills : Step → Bool
  | .resize _ _ | .thumbnail _ _ => true
  | _ => false

theorem drawn_size {x y : ℤ} (filling : step.fills = true)
    (made : step.drawn r (.int x) (.int y) = .ok p) : (p.width : ℤ) = x ∧ (p.height : ℤ) = y := by
  cases step <;> try cases filling
  case resize => exact Raster.resized_size made
  case thumbnail =>
    obtain ⟨region, -, made⟩ := Outcome.bind_eq_ok.mp made
    exact Raster.resized_size made

/-- A box without sides leaves a picture alone. -/
theorem run_nothing (given : step.sides? = some (width, height))
    (noWidth : width.number? = some (.int (0 : ℕ)))
    (noHeight : height.number? = some (.int (0 : ℕ)))
    (made : step.run r = .ok p) : p = r := by
  rw [run_of_sides given] at made
  obtain ⟨sides, found, made⟩ := Outcome.bind_eq_ok.mp made
  have target := targetSides_eq_ok noWidth noHeight found
  rw [if_pos ⟨rfl, rfl⟩] at target
  subst target
  exact (Except.ok.inj made).symm

/-- Any other box has its sides settled on the picture. -/
theorem run_something (given : step.sides? = some (width, height))
    (asksWidth : width.number? = some (.int w)) (asksHeight : height.number? = some (.int h))
    (some_ : ¬(w = 0 ∧ h = 0)) (made : step.run r = .ok p) :
    ∃ x y : ℤ, Options.askedSides w h r.width r.height = .ok (x, y) ∧
      step.drawn r (.int x) (.int y) = .ok p := by
  rw [run_of_sides given] at made
  obtain ⟨sides, found, made⟩ := Outcome.bind_eq_ok.mp made
  have target := targetSides_eq_ok asksWidth asksHeight found
  rw [if_neg some_] at target
  obtain ⟨a, b, x, y, rfl, asked, ofA, ofB⟩ := target
  simp only [ofA, ofB, Outcome.ok_bind] at made
  exact ⟨x, y, asked, made⟩

/-- Resizing and filling give the sides asked for. -/
theorem run_asked (filling : step.fills = true) (given : step.sides? = some (width, height))
    (asksWidth : width.number? = some (.int w)) (asksHeight : height.number? = some (.int h))
    (some_ : ¬(w = 0 ∧ h = 0)) (made : step.run r = .ok p) :
    Options.askedSides w h r.width r.height = .ok ((p.width : ℤ), (p.height : ℤ)) := by
  obtain ⟨x, y, asked, made⟩ := run_something given asksWidth asksHeight some_ made
  obtain ⟨rfl, rfl⟩ := drawn_size filling made
  exact asked

/-- Where the sides can be settled they are drawn. -/
theorem run_of_asked {x y : ℤ} (given : step.sides? = some (width, height))
    (asksWidth : width.number? = some (.int w)) (asksHeight : height.number? = some (.int h))
    (some_ : ¬(w = 0 ∧ h = 0)) (asked : Options.askedSides w h r.width r.height = .ok (x, y)) :
    step.run r = step.drawn r (.int x) (.int y) := by
  obtain ⟨sides, settled⟩ := targetSides_found asksWidth asksHeight asked
  have target := targetSides_eq_ok asksWidth asksHeight settled
  rw [if_neg some_] at target
  obtain ⟨a, b, x', y', rfl, asked', ofA, ofB⟩ := target
  obtain ⟨rfl, rfl⟩ := Prod.mk.inj (Except.ok.inj (asked.symm.trans asked'))
  rw [run_of_sides given, settled]
  simp only [Outcome.ok_bind, ofA, ofB]

/-- All sides are short enough for a resample to have room, those of a picture and those
asked for. -/
structure Short (r : Raster) (x y : ℤ) : Prop where
  source : r.IsShort
  across : x ≤ Span.roomyLength
  deep : y ≤ Span.roomyLength

/-- Short sides are given. -/
theorem run_resize_found {x y : ℤ} (asksWidth : width.number? = some (.int w))
    (asksHeight : height.number? = some (.int h)) (some_ : ¬(w = 0 ∧ h = 0))
    (asked : Options.askedSides w h r.width r.height = .ok (x, y)) (short : Short r x y) :
    ∃ p, (Step.resize width height).run r = .ok p := by
  obtain ⟨wide, tall⟩ := Options.one_le_askedSides some_ asked
  obtain ⟨source, across, deep⟩ := short
  have ordinary : (Span.roomyLength : ℤ) ≤ Raster.largestSide := by decide
  rw [run_of_asked rfl asksWidth asksHeight some_ asked]
  exact (r.resized_found _ _ wide tall (across.trans ordinary) (deep.trans ordinary)).found
    ⟨source, across, deep⟩

/-- Any picture of an ordinary size has a part with the proportions of a box. -/
theorem coverRegion_found {x y : ℕ} (tall : 0 < r.height) (narrow : r.width < 2 ^ 31)
    (deep : 0 < y) (short : x < 2 ^ 31) :
    ∃ region, coverRegion r (.int x) (.int y) = .ok region := by
  have own := Number.div_le_largestDouble tall (narrow.le.trans (by norm_num) : r.width ≤ 2 ^ 53)
  have box := Number.div_le_largestDouble deep (short.le.trans (by norm_num) : x ≤ 2 ^ 53)
  rw [coverRegion, Number.div_natCast_of_le tall own, Number.div_natCast_of_le deep box]
  exact ⟨_, rfl⟩

/-- Every step comes to a picture of any size that a picture can have, unless there is
no room for it. -/
theorem drawn_found {x y : ℕ} (step : Step) (wide : 0 < r.width) (tall : 0 < r.height)
    (narrow : r.width < 2 ^ 31) (low : r.height < 2 ^ 31) (across : 0 < x) (deep : 0 < y)
    (short : x < 2 ^ 31) (flat : y < 2 ^ 31) :
    Outcome.RoomAllows (Short r x y) (step.drawn r (.int x) (.int y)) := by
  have sized (region : Region) {m n : ℤ} (m1 : 1 ≤ m ∧ m ≤ x) (n1 : 1 ≤ n ∧ n ≤ y) :
      Outcome.RoomAllows (Short r x y) (r.resized .lanczos region (.int m) (.int n)) :=
    (r.resized_found .lanczos region m1.1 n1.1 (show m ≤ 0x7FFFFFFF by omega)
      (show n ≤ 0x7FFFFFFF by omega)).mono fun short =>
        ⟨short.source, m1.2.trans short.across, n1.2.trans short.deep⟩
  cases step
  case resize => exact sized _ (by omega) (by omega)
  case thumbnail =>
    obtain ⟨region, found⟩ := coverRegion_found tall narrow deep short
    rw [drawn, found]
    exact sized region (by omega) (by omega)
  case fit =>
    obtain ⟨sides, fitted⟩ := fitSides_found wide tall narrow low deep short flat
    rw [drawn, fitted]
    rcases sides with - | ⟨a, b⟩
    · exact .ok r
    · obtain ⟨m, n, rfl, rfl, m1, n1⟩ := fitSides_le wide tall narrow low across deep fitted
      exact sized _ ⟨m1.1, m1.2.2⟩ ⟨n1.1, n1.2.2⟩
  case rotate | flip => exact .ok r

/-- What a resample asks of a picture can be drawn: all sides are whole numbers
of an ordinary size, the one that follows the proportions too. -/
structure Feasible (o : Options) (w h : ℕ) (r : Raster) : Prop where
  asks : o.Asks w h
  wide : 0 < r.width
  tall : 0 < r.height
  narrow : r.width < 2 ^ 31
  low : r.height < 2 ^ 31
  short : w < 2 ^ 31
  flat : h < 2 ^ 31
  derived : ∀ x y, Options.askedSides w h r.width r.height = .ok (x, y) → x < 2 ^ 31 ∧ y < 2 ^ 31

/-- A resample has room: the sides of the picture and those settled on it are short. -/
def Roomy (w h : ℕ) (r : Raster) : Prop :=
  ∀ x y, Options.askedSides w h r.width r.height = .ok (x, y) → Short r x y

/-- What is feasible comes to a picture, unless there is no room for it. -/
theorem run_found (given : step.sides? = some (o.width, o.height))
    (feasible : Feasible o w h r) : Outcome.RoomAllows (Roomy w h r) (step.run r) := by
  obtain ⟨asks, wide, tall, narrow, low, short, flat, derived⟩ := feasible
  obtain ⟨x, y, asked⟩ := Options.askedSides_found wide tall narrow low short flat
  by_cases nothing : w = 0 ∧ h = 0
  case pos =>
    obtain ⟨rfl, rfl⟩ := nothing
    obtain ⟨sides, settled⟩ := targetSides_found asks.width asks.height asked
    have target := targetSides_eq_ok asks.width asks.height settled
    rw [if_pos ⟨rfl, rfl⟩] at target
    rw [run_of_sides given, settled, target]
    exact .ok r
  case neg =>
    obtain ⟨across, down⟩ := Options.one_le_askedSides nothing asked
    obtain ⟨shortX, flatY⟩ := derived x y asked
    lift x to ℕ using by omega
    lift y to ℕ using by omega
    rw [run_of_asked given asks.width asks.height nothing asked]
    exact (drawn_found step wide tall narrow low (by omega) (by omega) (by omega)
      (by omega)).mono fun roomy => roomy x y asked

/-- Under the policy a turn always comes to a picture, and so does a resample
that can be drawn, unless there is no room for it. -/
theorem runScaled_found (drawable : step.resamples = true →
      step.sides? = some (o.width, o.height) ∧ ∃ w h, Feasible o w h r) :
    Outcome.RoomAllows (step.resamples = true → ∃ w h, o.Asks w h ∧ Roomy w h r)
      (step.runScaled o r).outcome := by
  rw [runScaled_outcome]
  rcases step.turn_or_sides with ⟨turn, turns⟩ | ⟨_, _, given⟩
  · rw [runsOn, if_neg (by rw [resamples_of_turn turns]; decide), Outcome.ok_bind, if_pos rfl,
      run_of_turn turns]
    exact .ok _
  · have resampling := resamples_of_sides given
    obtain ⟨sides, w, h, feasible⟩ := drawable resampling
    have across := Number.div_le_largestDouble feasible.wide
      (feasible.short.le.trans (by norm_num) : w ≤ 2 ^ 53)
    have down := Number.div_le_largestDouble feasible.tall
      (feasible.flat.le.trans (by norm_num) : h ≤ 2 ^ 53)
    obtain ⟨runs, decided⟩ :=
      step.runsOn_found feasible.asks feasible.wide feasible.tall across down
    rw [decided, Outcome.ok_bind]
    cases runs
    · exact .ok r
    · refine (run_found sides feasible).mono fun short => ?_
      obtain ⟨w', h', asks, roomy⟩ := short resampling
      obtain ⟨rfl, rfl⟩ := feasible.asks.unique asks
      exact roomy

/-- Fitting never makes a picture larger, and keeps it in the box that is settled
on it. -/
theorem run_within (boxing : step.fills = false) (given : step.sides? = some (width, height))
    (asksWidth : width.number? = some (.int w)) (asksHeight : height.number? = some (.int h))
    (wide : 0 < r.width) (tall : 0 < r.height) (narrow : r.width < 2 ^ 31)
    (low : r.height < 2 ^ 31) (some_ : ¬(w = 0 ∧ h = 0)) (made : step.run r = .ok p) :
    (p.width ≤ r.width ∧ p.height ≤ r.height) ∧
      ∃ x y : ℤ, Options.askedSides w h r.width r.height = .ok (x, y) ∧ p.width ≤ x ∧
        p.height ≤ y := by
  obtain ⟨x, y, asked, made⟩ := run_something given asksWidth asksHeight some_ made
  obtain ⟨x1, y1⟩ := Options.one_le_askedSides some_ asked
  lift x to ℕ using by omega
  lift y to ℕ using by omega
  cases step
  case resize | thumbnail => cases boxing
  case rotate | flip => cases given
  case fit =>
    obtain ⟨box, fitted, made⟩ := Outcome.bind_eq_ok.mp made
    rcases box with - | ⟨a, b⟩
    · obtain rfl := Except.ok.inj made
      obtain ⟨inX, inY⟩ := fitSides_none fitted
      exact ⟨⟨le_refl _, le_refl _⟩, x, y, asked, by omega, by omega⟩
    · obtain ⟨m, n, rfl, rfl, source, inBox⟩ :=
        fitSides_le wide tall narrow low (by omega) (by omega) fitted
      obtain ⟨rfl, rfl⟩ := Raster.resized_size made
      exact ⟨⟨by omega, by omega⟩, x, y, asked, by omega, by omega⟩

theorem run_boxed (boxing : step.fills = false) (given : step.sides? = some (width, height))
    (asksWidth : width.number? = some (.int w)) (asksHeight : height.number? = some (.int h))
    (wide : 0 < r.width) (tall : 0 < r.height) (narrow : r.width < 2 ^ 31)
    (low : r.height < 2 ^ 31) (some_ : ¬(w = 0 ∧ h = 0)) (made : step.run r = .ok p) :
    p.width ≤ r.width ∧ p.height ≤ r.height :=
  (run_within boxing given asksWidth asksHeight wide tall narrow low some_ made).1

end Step

end Darkroom
