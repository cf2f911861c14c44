/-
# Darkroom.Proofs.Showing -- what is on display, before folding and after

A schedule is pictures with how long each stays; `onDisplay` is the one that is seen
after some time.  Folding takes neighbours for one when their bytes are the same.  So
at every time the folded schedule shows a picture with the bytes of the one that the
shots themselves show: the one that stands for the run that they are in
(`shown_together`).

The bytes are the whole picture where all pictures have one palette, as they do in
whatever becomes of a file (`steady_of_transformed`).  In general neighbours may have
the same bytes and not look the same.  Shots where this does not happen are `Steady`,
and where each shot takes some time these alone are shown as they were: every shot of
a run is on display beside the one that stands for it (`shown_sometime`).
-/
import Darkroom.Proofs.Carrying

namespace Darkroom

set_option autoImplicit false

/-- Two pictures of the same colours everywhere. -/
def Raster.LooksLike (r s : Raster) : Prop := r.toRgb = s.toRgb

/-! ## Schedules -/

/-- The picture on display after some time.  Each stays for its time and makes way for
the next; the last one stays for good. -/
def onDisplay (time : Int) : List (Raster × Int) → Option Raster
  | [] => none
  | [(r, _)] => some r
  | (r, stay) :: next :: later =>
      if time < stay then some r else onDisplay (time - stay) (next :: later)

/-- The pictures that a call hands on, with their durations. -/
def Animation.Call.schedule (call : Animation.Call) : List (Raster × Int) :=
  call.pictures.zip call.durations.values

namespace Shot

/-- The pictures of some shots, with their durations. -/
def schedule (shots : List Shot) : List (Raster × Int) :=
  shots.map fun s => (s.picture, s.timing.duration)

theorem schedule_call (a : Animation) : a.call.schedule = schedule a.written := by
  rw [Animation.Call.schedule, Animation.call, Animation.PerPicture.values_ofList, List.zip_map']
  rfl

variable {s : Shot} {run later kept : List Shot} {runs : List (List Shot)} {time : Int}

theorem onDisplay_cons_of_lt (during : time < s.timing.duration) :
    onDisplay time (schedule (s :: later)) = some s.picture := by
  cases later with
  | nil => rfl
  | cons next later => exact if_pos during

theorem onDisplay_cons_of_le (some_ : later ≠ []) (ended : s.timing.duration ≤ time) :
    onDisplay time (schedule (s :: later)) =
      onDisplay (time - s.timing.duration) (schedule later) := by
  cases later with
  | nil => exact absurd rfl some_
  | cons next later => exact if_neg (not_lt.mpr ended)

theorem totalDuration_cons (s : Shot) (run : List Shot) :
    totalDuration (s :: run) = s.timing.duration + totalDuration run := rfl

theorem totalDuration_nonneg (nonneg : ∀ s ∈ run, 0 ≤ s.timing.duration) :
    0 ≤ totalDuration run := by
  rw [totalDuration_eq_sum]
  exact List.sum_nonneg (List.forall_mem_map.mpr nonneg)

/-- While a run lasts one of its shots is on display. -/
theorem onDisplay_within (some_ : run ≠ []) (lasts : later = [] ∨ time < totalDuration run) :
    ∃ u ∈ run, onDisplay time (schedule (run ++ later)) = some u.picture := by
  induction run generalizing time with
  | nil => exact absurd rfl some_
  | cons s run ih =>
      by_cases during : time < s.timing.duration
      · exact ⟨s, List.mem_cons_self .., onDisplay_cons_of_lt during⟩
      have ended := not_lt.mp during
      by_cases last : run = []
      · subst last
        have none_ : later = [] := lasts.resolve_right (by simpa [totalDuration] using ended)
        subst none_
        exact ⟨s, List.mem_cons_self .., rfl⟩
      · have rest : later = [] ∨ time - s.timing.duration < totalDuration run :=
          lasts.imp_right fun short => by
            rw [totalDuration_cons] at short
            omega
        obtain ⟨u, member, shown⟩ := ih last rest
        refine ⟨u, List.mem_cons_of_mem _ member, ?_⟩
        rw [List.cons_append, onDisplay_cons_of_le (List.append_ne_nil_of_left_ne_nil last _) ended,
          shown]

/-- When a run is over the rest goes on as if it had been the start. -/
theorem onDisplay_past (nonneg : ∀ s ∈ run, 0 ≤ s.timing.duration) (some_ : later ≠ [])
    (ended : totalDuration run ≤ time) : onDisplay time (schedule (run ++ later)) =
      onDisplay (time - totalDuration run) (schedule later) := by
  induction run generalizing time with
  | nil => rw [List.nil_append, totalDuration, List.foldr_nil, Int.sub_zero]
  | cons s run ih =>
      obtain ⟨-, others⟩ := List.forall_mem_cons.mp nonneg
      have rest := totalDuration_nonneg others
      rw [totalDuration_cons] at ended ⊢
      rw [List.cons_append,
        onDisplay_cons_of_le (List.append_ne_nil_of_right_ne_nil _ some_) (by omega),
        ih others (by omega), Int.sub_sub]

/-- A shot that takes some time is on display at some time of its run. -/
theorem onDisplay_of_mem {u : Shot} (positive : ∀ s ∈ run, 0 < s.timing.duration)
    (member : u ∈ run) (later : List Shot) : ∃ time, 0 ≤ time ∧ time < totalDuration run ∧
      onDisplay time (schedule (run ++ later)) = some u.picture := by
  obtain ⟨front, back, rfl⟩ := List.append_of_mem member
  have stays := positive u member
  have before (s : Shot) (inside : s ∈ front) : 0 ≤ s.timing.duration :=
    (positive s (List.mem_append_left _ inside)).le
  have after (s : Shot) (inside : s ∈ back) : 0 ≤ s.timing.duration :=
    (positive s (List.mem_append_right _ (List.mem_cons_of_mem _ inside))).le
  refine ⟨totalDuration front, totalDuration_nonneg before, ?_, ?_⟩
  · have rest := totalDuration_nonneg after
    rw [totalDuration_append, totalDuration_cons]
    omega
  · rw [List.append_assoc, onDisplay_past before (by simp) le_rfl, Int.sub_self, List.cons_append,
      onDisplay_cons_of_lt stays]

/-! ## Side by side -/

section SideBySide

variable (each : List.Forall₂ StandsFor kept runs)
include each

theorem flatten_eq_nil_iff : runs.flatten = [] ↔ kept = [] := by
  cases each with
  | nil => simp
  | cons stands each =>
      obtain ⟨t, later, rfl, -⟩ := stands.first
      simp

/-- At every time the shots that are kept show the one that stands for the run that the
shots themselves are in. -/
theorem shown_together (some_ : kept ≠ []) (nonneg : ∀ s ∈ runs.flatten, 0 ≤ s.timing.duration)
    (time : Int) : ∃ (s : Shot) (run : List Shot) (u : Shot), run ∈ runs ∧ s.StandsFor run ∧ u ∈ run ∧
      onDisplay time (schedule kept) = some s.picture ∧
        onDisplay time (schedule runs.flatten) = some u.picture := by
  induction each generalizing time with
  | nil => exact absurd rfl some_
  | @cons s run kept runs stands each ih =>
      have duration := stands.duration
      obtain ⟨here, there⟩ := List.forall_mem_append.mp (List.flatten_cons ▸ nonneg)
      have run0 : run ≠ [] := by
        obtain ⟨t, later, rfl, -⟩ := stands.first
        exact List.cons_ne_nil t later
      have none_iff := flatten_eq_nil_iff each
      by_cases lasts : kept = [] ∨ time < s.timing.duration
      · have lastsToo : runs.flatten = [] ∨ time < totalDuration run := by
          rwa [none_iff, ← duration]
        obtain ⟨u, member, shown⟩ := onDisplay_within run0 lastsToo
        have own : kept = [] ∨ time < totalDuration [s] := by
          rwa [totalDuration_cons, totalDuration, List.foldr_nil, Int.add_zero]
        obtain ⟨s', only, shownKept⟩ := onDisplay_within (List.cons_ne_nil s []) own
        rw [List.mem_singleton.mp only] at shownKept
        exact ⟨s, run, u, List.mem_cons_self .., stands, member, shownKept, shown⟩
      · rw [not_or, not_lt] at lasts
        obtain ⟨more, ended⟩ := lasts
        obtain ⟨t, run', u, inRuns, standsToo, member, shownKept, shown⟩ :=
          ih more there (time - s.timing.duration)
        refine ⟨t, run', u, List.mem_cons_of_mem _ inRuns, standsToo, member, ?_, ?_⟩
        · rw [onDisplay_cons_of_le more ended, shownKept]
        · rw [List.flatten_cons, onDisplay_past here (mt none_iff.mp more) (by omega), ← duration,
            shown]

/-- Where all shots take some time, each of them is on display at some time, and at that
time the one that stands for its run is. -/
theorem shown_sometime (positive : ∀ s ∈ runs.flatten, 0 < s.timing.duration) {u : Shot}
    (inRuns : run ∈ runs) (member : u ∈ run) :
    ∃ (s : Shot) (time : Int), s.StandsFor run ∧ 0 ≤ time ∧ time < totalDuration runs.flatten ∧
      onDisplay time (schedule kept) = some s.picture ∧
        onDisplay time (schedule runs.flatten) = some u.picture := by
  induction each with
  | nil => cases inRuns
  | @cons s first kept runs stands each ih =>
      have duration := stands.duration
      obtain ⟨here, there⟩ := List.forall_mem_append.mp (List.flatten_cons ▸ positive)
      have before := totalDuration_nonneg fun t inside => (here t inside).le
      have after := totalDuration_nonneg fun t inside => (there t inside).le
      rw [List.flatten_cons, totalDuration_append]
      rcases List.mem_cons.mp inRuns with rfl | inRuns
      · obtain ⟨time, start, stop, shown⟩ := onDisplay_of_mem here member runs.flatten
        exact ⟨s, time, stands, start, by omega, onDisplay_cons_of_lt (by omega), shown⟩
      · obtain ⟨t, time, standsToo, start, stop, shownKept, shown⟩ := ih there inRuns
        have more : kept ≠ [] := by
          rintro rfl
          cases each
          cases inRuns
        refine ⟨t, totalDuration first + time, standsToo, by omega, by omega, ?_, ?_⟩
        · rw [onDisplay_cons_of_le more (by omega), duration, add_sub_cancel_left, shownKept]
        · rw [onDisplay_past (fun t inside => (here t inside).le)
            (mt (flatten_eq_nil_iff each).mp more) (by omega), add_sub_cancel_left, shown]

end SideBySide

/-! ## Neighbours with the same bytes -/

/-- Two shots show the same colours everywhere. -/
def LooksLike (s t : Shot) : Prop := s.picture.LooksLike t.picture

instance : Trans LooksLike LooksLike LooksLike := ⟨Eq.trans⟩

instance : Std.Symm LooksLike := ⟨fun _ _ => Eq.symm⟩

/-- Neighbours that have the same bytes look the same. -/
def Steady (shots : List Shot) : Prop :=
  shots.IsChain fun s t => t.alike s = true → s.LooksLike t

theorem alike_iff {s t : Shot} : s.alike t = true ↔ s.picture.packed = t.picture.packed :=
  decide_eq_true_iff

theorem StandsFor.packed {s t : Shot} (stands : s.StandsFor run) (member : t ∈ run) :
    t.picture.packed = s.picture.packed := alike_iff.mp (stands.alike t member)

/-- The shots of a run have the same bytes, so it is steady where all of them look the
same. -/
theorem steady_run {s : Shot} (stands : s.StandsFor run) :
    Steady run ↔ ∀ t ∈ run, ∀ u ∈ run, t.LooksLike u := by
  constructor
  · intro steady
    have looks : run.IsChain LooksLike := steady.imp_of_mem_imp fun t u ht hu same =>
      same (alike_iff.mpr ((stands.packed hu).trans (stands.packed ht).symm))
    exact (List.isChain_iff_pairwise.mp looks).forall_of_forall fun _ _ => rfl
  · intro looks
    have pairs : run.Pairwise LooksLike := List.pairwise_of_forall_mem_list looks
    exact pairs.isChain.imp fun _ _ look _ => look

/-- One run after another is steady where each of them is: the next one begins with other
bytes. -/
theorem steady_flatten_iff (each : List.Forall₂ StandsFor kept runs) (apart : kept.IsChain Apart) :
    Steady runs.flatten ↔ ∀ run ∈ runs, ∀ s ∈ run, ∀ t ∈ run, s.LooksLike t := by
  induction each with
  | nil => exact ⟨fun _ _ none_ => absurd none_ (List.not_mem_nil), fun _ => .nil⟩
  | @cons s run kept runs stands each ih =>
      have boundary : ∀ t ∈ run.getLast?, ∀ u ∈ runs.flatten.head?,
          u.alike t = true → t.LooksLike u := by
        intro t last u begins same
        cases each with
        | nil => cases begins
        | cons stands' each' =>
            obtain ⟨v, rest, whole, picture⟩ := head_of_runs (.cons stands' each')
            rw [whole, List.head?_cons, Option.mem_some_iff] at begins
            subst begins
            have differs : Apart s _ := (List.isChain_cons_cons.mp apart).1
            rw [Apart, Bool.eq_false_iff, Ne, alike_iff, ← picture,
              ← stands.packed (List.mem_of_getLast? last), ← alike_iff] at differs
            exact absurd same differs
      rw [List.flatten_cons, Steady, List.isChain_append, List.forall_mem_cons,
        ← steady_run stands, ← ih apart.tail]
      constructor
      · rintro ⟨front, back, -⟩
        exact ⟨front, back⟩
      · rintro ⟨front, back⟩
        exact ⟨front, back, boundary⟩

/-- What stands for a run looks like all of it where all of it looks the same. -/
theorem StandsFor.looksLike {s u : Shot} (stands : s.StandsFor run)
    (same : ∀ t ∈ run, ∀ u ∈ run, t.LooksLike u) (member : u ∈ run) : s.LooksLike u := by
  obtain ⟨t, later, rfl, picture, -⟩ := stands.first
  rw [LooksLike, picture]
  exact same t (List.mem_cons_self ..) u member

end Shot

/-! ## An animation and its call -/

namespace Animation

variable {a : Animation} {c : Container} {first : Frame} {step : Step} {o : Options}

/-- The call and the shots themselves show the same colours at a time. -/
def SeenAlike (a : Animation) (time : Int) : Prop :=
  ∃ p q, onDisplay time a.call.schedule = some p ∧
    onDisplay time (Shot.schedule a.shots) = some q ∧ p.LooksLike q

/-- An animation of a file is steady, for all of its pictures are in the fixed palette. -/
theorem steady_of_transformed
    (made : (transformed c first step o step.resamples).outcome = .ok a) : Shot.Steady a.shots := by
  have fixed := fixed_of_transformed made
  refine (List.pairwise_of_forall_mem_list fun s hs t ht same => ?_ :
    a.shots.Pairwise fun s t => t.alike s = true → s.LooksLike t).isChain
  obtain ⟨sWidth, sHeight⟩ := a.sized s hs
  obtain ⟨tWidth, tHeight⟩ := a.sized t ht
  have equal : s.picture = t.picture := (fixed s hs).eq_of_packed (fixed t ht)
    (sWidth.trans tWidth.symm) (sHeight.trans tHeight.symm) (Shot.alike_iff.mp same).symm
  exact congrArg Raster.toRgb equal

/-- Encoding an animation keeps what is seen where the animation is steady, and only
there.  At every time the call shows a picture with the bytes of the one that was to be
seen, and just the shots that have the same bytes as their neighbours are merged.  So
whatever is seen is kept, and only what looks the same is merged, where neighbours with
the same bytes look the same; and if each shot takes some time, an animation that is not
steady is seen to differ. -/
theorem display_kept_iff (nonneg : ∀ s ∈ a.shots, 0 ≤ s.timing.duration) :
    (∀ time, ∃ p q, onDisplay time a.call.schedule = some p ∧
      onDisplay time (Shot.schedule a.shots) = some q ∧ p.packed = q.packed) ∧
      (Shot.Steady a.shots → ∀ time, a.SeenAlike time) ∧
      (∃ runs, runs.flatten = a.shots ∧ List.Forall₂ Shot.StandsFor a.written runs ∧
        (Shot.Steady a.shots ↔ ∀ run ∈ runs, ∀ s ∈ run, ∀ t ∈ run, s.LooksLike t)) ∧
      ((∀ s ∈ a.shots, 0 < s.timing.duration) →
        ((∀ time, 0 ≤ time → time < Shot.totalDuration a.shots → a.SeenAlike time) ↔
          Shot.Steady a.shots)) := by
  obtain ⟨runs, whole, each⟩ := Shot.folded_runs a.shots
  have steady_iff := Shot.steady_flatten_iff each (Shot.isChain_folded a.shots)
  rw [whole] at steady_iff
  have together := Shot.shown_together each (Shot.folded_ne_nil a.nonempty) (whole ▸ nonneg)
  rw [whole] at together
  have kept (steady : Shot.Steady a.shots) (time : Int) : a.SeenAlike time := by
    obtain ⟨s, run, u, inRuns, stands, member, shownKept, shown⟩ := together time
    exact ⟨s.picture, u.picture, by rw [Shot.schedule_call]; exact shownKept, shown,
      stands.looksLike (steady_iff.mp steady run inRuns) member⟩
  refine ⟨fun time => ?_, kept, ⟨runs, whole, each, steady_iff⟩, fun positive =>
    ⟨fun seen => steady_iff.mpr fun run inRuns => ?_, fun steady time _ _ => kept steady time⟩⟩
  · obtain ⟨s, run, u, -, stands, member, shownKept, shown⟩ := together time
    exact ⟨s.picture, u.picture, by rw [Shot.schedule_call]; exact shownKept, shown,
      (stands.packed member).symm⟩
  · -- Each shot of the run is seen beside the first one at some time.
    have beside (u : Shot) (member : u ∈ run) :
        ∃ s : Shot, s.StandsFor run ∧ s.LooksLike u := by
      obtain ⟨s, time, stands, start, stop, shownKept, shown⟩ :=
        Shot.shown_sometime each (whole ▸ positive) inRuns member
      rw [whole] at stop shown
      obtain ⟨p, q, isKept, isShown, look⟩ := seen time start stop
      rw [Shot.schedule_call] at isKept
      obtain rfl := Option.some.inj (isKept.symm.trans shownKept)
      obtain rfl := Option.some.inj (isShown.symm.trans shown)
      exact ⟨s, stands, look⟩
    intro t ht u hu
    obtain ⟨s, stands, lookT⟩ := beside t ht
    obtain ⟨s', stands', lookU⟩ := beside u hu
    obtain ⟨v, later, rfl, picture, -⟩ := stands.first
    obtain ⟨v', later', same, picture', -⟩ := stands'.first
    obtain ⟨rfl, -⟩ := List.cons.inj same
    rw [Shot.LooksLike, picture] at lookT
    rw [Shot.LooksLike, picture'] at lookU
    exact lookT.symm.trans lookU

/-- A picture of one pixel, with a palette of its one colour. -/
def tile (color : UInt8 × UInt8 × UInt8) : Raster :=
  { Raster.filled .indexed 1 1 fun _ => 0 with palette := ⟨#[color]⟩ }

/-- Two tiles one after the other. -/
def twoTiles (one two : UInt8 × UInt8 × UInt8) : Animation where
  shots := [⟨tile one, ⟨10, 0⟩⟩, ⟨tile two, ⟨20, 0⟩⟩]
  width := 1
  height := 1
  loop := none
  nonempty := List.cons_ne_nil _ _
  sized := by simp [tile, Raster.filled, Raster.tabulate]

theorem tiles_differ : ¬(tile (255, 0, 0)).LooksLike (tile (0, 0, 255)) := by
  intro look
  have red : (tile (255, 0, 0)).toRgb.map (·.byteAt 0 0 0) = .ok 255 := rfl
  have blue : (tile (0, 0, 255)).toRgb.map (·.byteAt 0 0 0) = .ok 0 := rfl
  rw [show (tile (255, 0, 0)).toRgb = _ from look, blue] at red
  exact absurd (Except.ok.inj red) (by decide)

/-- Tiles of one colour are one picture, and that is all there is to see.  A red one and
a blue one do not look alike, and this is seen. -/
theorem tiles_displayed :
    (∀ time, (twoTiles (255, 0, 0) (255, 0, 0)).SeenAlike time) ∧
      ¬∀ time, 0 ≤ time → time < 30 → (twoTiles (255, 0, 0) (0, 0, 255)).SeenAlike time := by
  have takes (one two : UInt8 × UInt8 × UInt8) :
      ∀ s ∈ (twoTiles one two).shots, 0 < s.timing.duration := by simp [twoTiles]
  constructor
  · have steady : Shot.Steady (twoTiles (255, 0, 0) (255, 0, 0)).shots :=
      List.isChain_pair.mpr fun _ => rfl
    exact (display_kept_iff fun s member => (takes _ _ s member).le).2.1 steady
  · intro seen
    have steady := ((display_kept_iff fun s member => (takes _ _ s member).le).2.2.2
      (takes (255, 0, 0) (0, 0, 255))).mp seen
    exact tiles_differ (List.isChain_pair.mp steady rfl)

/-- A red tile and a blue one have the same bytes, so they are merged, and the blue one is
not seen any more. -/
theorem blue_tile_lost :
    let a := twoTiles (255, 0, 0) (0, 0, 255)
    a.call.schedule = [(tile (255, 0, 0), 30)] ∧
      onDisplay 15 (Shot.schedule a.shots) = some (tile (0, 0, 255)) ∧ ¬a.SeenAlike 15 := by
  intro a
  have call : a.call.schedule = [(tile (255, 0, 0), 30)] := rfl
  have shown : onDisplay 15 (Shot.schedule a.shots) = some (tile (0, 0, 255)) := rfl
  refine ⟨call, shown, ?_⟩
  rintro ⟨p, q, isKept, isShown, look⟩
  rw [call] at isKept
  obtain rfl : tile (255, 0, 0) = p := Option.some.inj isKept
  obtain rfl := Option.some.inj (shown.symm.trans isShown)
  exact tiles_differ look

end Animation

end Darkroom
