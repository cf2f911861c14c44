/-
# Darkroom.Proofs.Folding -- what folding keeps

Folding neighbours that are alike shows no picture that was not there
(`mem_folded`) and leaves no two neighbours alike (`isChain_folded`).  Where no
two are alike there is nothing to fold (`folded_of_isChain`), so folding twice is
folding once.  Nothing is lost: the shots are cut into runs, and each folded shot
stands for one of them (`folded_runs`).

These two things are all there is to say: shots that stand for runs of others, no
two neighbours alike, are those others folded (`compresses_iff`).
-/
import Darkroom.Animation
import Mathlib.Data.List.Chain
import Mathlib.Data.List.Forall2

namespace Darkroom

set_option autoImplicit false

namespace Shot

/-- Neighbours that stay apart. -/
def Apart (s t : Shot) : Prop := t.alike s = false

theorem foldOnto_head (kept : Shot) (rest : List Shot) :
    ∃ t later, foldOnto kept rest = ⟨kept.picture, t⟩ :: later := by
  induction rest generalizing kept with
  | nil => exact ⟨kept.timing, [], rfl⟩
  | cons s rest ih =>
      unfold foldOnto
      split
      · exact ih (kept.extended s.timing.duration)
      · exact ⟨kept.timing, foldOnto s rest, rfl⟩

theorem mem_foldOnto {kept s : Shot} {rest : List Shot} (member : s ∈ foldOnto kept rest) :
    s.picture = kept.picture ∨ ∃ t ∈ rest, s.picture = t.picture := by
  induction rest generalizing kept with
  | nil =>
      rw [foldOnto, List.mem_singleton] at member
      exact .inl (congrArg picture member)
  | cons t rest ih =>
      unfold foldOnto at member
      split_ifs at member
      · rcases ih member with same | ⟨u, later, same⟩
        · exact .inl same
        · exact .inr ⟨u, List.mem_cons_of_mem _ later, same⟩
      · rcases List.mem_cons.mp member with rfl | member
        · exact .inl rfl
        · rcases ih member with same | ⟨u, later, same⟩
          · exact .inr ⟨t, List.mem_cons_self .., same⟩
          · exact .inr ⟨u, List.mem_cons_of_mem _ later, same⟩

/-- Folding shows no picture that was not there. -/
theorem mem_folded {s : Shot} {shots : List Shot} (member : s ∈ folded shots) :
    ∃ t ∈ shots, s.picture = t.picture := by
  cases shots with
  | nil => cases member
  | cons kept rest =>
      rcases mem_foldOnto member with same | ⟨t, later, same⟩
      · exact ⟨kept, List.mem_cons_self .., same⟩
      · exact ⟨t, List.mem_cons_of_mem _ later, same⟩

/-- No two neighbours are alike after folding. -/
theorem isChain_foldOnto (kept : Shot) (rest : List Shot) : (foldOnto kept rest).IsChain Apart := by
  induction rest generalizing kept with
  | nil => exact List.isChain_singleton kept
  | cons s rest ih =>
      unfold foldOnto
      split
      case isTrue => exact ih (kept.extended s.timing.duration)
      case isFalse apart =>
        obtain ⟨t, later, folded⟩ := foldOnto_head s rest
        have chain := ih s
        rw [folded] at chain ⊢
        exact List.isChain_cons_cons.mpr ⟨Bool.eq_false_iff.mpr apart, chain⟩

theorem isChain_folded (shots : List Shot) : (folded shots).IsChain Apart := by
  cases shots with
  | nil => exact List.isChain_nil
  | cons s rest => exact isChain_foldOnto s rest

theorem foldOnto_of_isChain {kept : Shot} {rest : List Shot}
    (apart : (kept :: rest).IsChain Apart) : foldOnto kept rest = kept :: rest := by
  induction rest generalizing kept with
  | nil => rfl
  | cons s rest ih =>
      obtain ⟨first, later⟩ := List.isChain_cons_cons.mp apart
      rw [foldOnto, if_neg (Bool.eq_false_iff.mp first), ih later]

/-- Where neighbours are apart there is nothing to fold. -/
theorem folded_of_isChain {shots : List Shot} (apart : shots.IsChain Apart) :
    folded shots = shots := by
  cases shots with
  | nil => rfl
  | cons s rest => exact foldOnto_of_isChain apart

/-- A shot that stands for a run of shots like it: it shows what the first of
them shows, goes as that one goes, and stays as long as all of them. -/
structure StandsFor (s : Shot) (run : List Shot) : Prop where
  first : ∃ t later, run = t :: later ∧ s.picture = t.picture ∧
    s.timing.disposal = t.timing.disposal
  alike : ∀ t ∈ run, t.alike s = true
  duration : s.timing.duration = totalDuration run

theorem StandsFor.alone (s : Shot) : s.StandsFor [s] where
  first := ⟨s, [], rfl, rfl, rfl⟩
  alike := List.forall_mem_singleton.mpr (decide_eq_true rfl)
  duration := by simp [totalDuration]

theorem totalDuration_append (front back : List Shot) :
    totalDuration (front ++ back) = totalDuration front + totalDuration back := by
  induction front with
  | nil => simp [totalDuration]
  | cons s rest ih =>
      simp only [totalDuration, List.cons_append, List.foldr_cons] at ih ⊢
      rw [ih, Int.add_assoc]

/-- One more shot that is like the others. -/
theorem StandsFor.extended {s t : Shot} {run : List Shot} (stands : s.StandsFor run)
    (alike : t.alike s = true) : (s.extended t.timing.duration).StandsFor (run ++ [t]) := by
  obtain ⟨⟨u, later, rfl, picture, disposal⟩, like, duration⟩ := stands
  refine ⟨⟨u, later ++ [t], rfl, picture, disposal⟩, fun v member => ?_, ?_⟩
  · rcases List.mem_append.mp member with inside | last
    · exact like v inside
    · rwa [List.mem_singleton.mp last]
  · rw [totalDuration_append, ← duration]
    simp [Shot.extended, totalDuration]

theorem foldOnto_runs {kept : Shot} {run : List Shot} (stands : kept.StandsFor run)
    (rest : List Shot) : ∃ runs, runs.flatten = run ++ rest ∧
      List.Forall₂ StandsFor (foldOnto kept rest) runs := by
  induction rest generalizing kept run with
  | nil => exact ⟨[run], by simp, .cons stands .nil⟩
  | cons s rest ih =>
      unfold foldOnto
      split
      case isTrue alike =>
        obtain ⟨runs, all, each⟩ := ih (stands.extended alike)
        exact ⟨runs, by rw [all, List.append_assoc, List.singleton_append], each⟩
      case isFalse =>
        obtain ⟨runs, all, each⟩ := ih (StandsFor.alone s)
        have whole : (run :: runs).flatten = run ++ s :: rest := by
          rw [List.flatten_cons, all, List.singleton_append]
        exact ⟨run :: runs, whole, .cons stands each⟩

/-- Folding cuts the shots into runs, in order and with nothing left out, and
puts one shot for each. -/
theorem folded_runs (shots : List Shot) :
    ∃ runs, runs.flatten = shots ∧ List.Forall₂ StandsFor (folded shots) runs := by
  cases shots with
  | nil => exact ⟨[], rfl, .nil⟩
  | cons s rest => exact foldOnto_runs (StandsFor.alone s) rest

/-- A run is not empty, so there are at least as many shots in the runs. -/
theorem length_le_of_runs {kept : List Shot} {runs : List (List Shot)}
    (each : List.Forall₂ StandsFor kept runs) : kept.length ≤ runs.flatten.length := by
  induction each with
  | nil => simp
  | cons stands _ ih =>
      obtain ⟨t, later, rfl, -⟩ := stands.first
      simp only [List.length_cons, List.flatten_cons, List.length_append]
      omega

theorem length_folded_le (shots : List Shot) : (folded shots).length ≤ shots.length := by
  obtain ⟨runs, all, each⟩ := folded_runs shots
  calc (folded shots).length ≤ runs.flatten.length := length_le_of_runs each
    _ = shots.length := by rw [all]

theorem folded_ne_nil {shots : List Shot} (some_ : shots ≠ []) : folded shots ≠ [] := by
  cases shots with
  | nil => exact absurd rfl some_
  | cons s rest => exact foldOnto_ne_nil s rest

theorem dvd_foldOnto {n : Int} {kept : Shot} {rest : List Shot} (first : n ∣ kept.timing.duration)
    (later : ∀ s ∈ rest, n ∣ s.timing.duration) :
    ∀ s ∈ foldOnto kept rest, n ∣ s.timing.duration := by
  induction rest generalizing kept with
  | nil => simpa [foldOnto] using first
  | cons s rest ih =>
      obtain ⟨here, later⟩ := List.forall_mem_cons.mp later
      unfold foldOnto
      split
      · exact ih (Int.dvd_add first here) later
      · exact List.forall_mem_cons.mpr ⟨first, ih here later⟩

/-- Durations in whole steps add up to whole steps. -/
theorem dvd_folded {n : Int} {shots : List Shot} (whole : ∀ s ∈ shots, n ∣ s.timing.duration) :
    ∀ s ∈ folded shots, n ∣ s.timing.duration := by
  cases shots with
  | nil => simp [folded]
  | cons s rest =>
      obtain ⟨first, later⟩ := List.forall_mem_cons.mp whole
      exact dvd_foldOnto first later

/-! ## Run-length compression -/

/-- Shots that stand for others run by run, as few as can be. -/
structure Compresses (kept shots : List Shot) : Prop where
  runs : ∃ runs, runs.flatten = shots ∧ List.Forall₂ StandsFor kept runs
  apart : kept.IsChain Apart

/-- What stands for a run is its first shot, made to stay as long as all of them. -/
theorem StandsFor.eq_extended {s t : Shot} {later : List Shot} (stands : s.StandsFor (t :: later)) :
    s = t.extended (totalDuration later) := by
  obtain ⟨⟨u, others, same, picture, disposal⟩, -, duration⟩ := stands
  obtain ⟨rfl, rfl⟩ := List.cons.inj same
  rcases s with ⟨_, _, _⟩
  subst picture disposal duration
  rfl

/-- Shots like the one that they are folded onto make it stay longer. -/
theorem foldOnto_append {kept : Shot} {later : List Shot} (alike : ∀ s ∈ later, s.alike kept = true)
    (rest : List Shot) :
    foldOnto kept (later ++ rest) = foldOnto (kept.extended (totalDuration later)) rest := by
  induction later generalizing kept with
  | nil =>
      have unchanged : kept.extended (totalDuration []) = kept := by
        simp [extended, totalDuration]
      rw [unchanged, List.nil_append]
  | cons s later ih =>
      obtain ⟨here, there⟩ := List.forall_mem_cons.mp alike
      have longer : (kept.extended s.timing.duration).extended (totalDuration later) =
          kept.extended (totalDuration (s :: later)) := by
        simp [extended, totalDuration, Int.add_assoc]
      have like : ∀ t ∈ later, t.alike (kept.extended s.timing.duration) = true := there
      rw [List.cons_append, foldOnto, if_pos here, ih like, longer]

/-- Nothing is folded onto a shot that the next one is not like. -/
theorem foldOnto_of_apart {kept : Shot} {rest : List Shot}
    (apart : ∀ s ∈ rest.head?, Apart kept s) :
    foldOnto kept rest = kept :: folded rest := by
  cases rest with
  | nil => rfl
  | cons s rest =>
      have first : s.alike kept = false := apart s rfl
      rw [foldOnto, if_neg (Bool.eq_false_iff.mp first), folded]

/-- The next run begins with a shot like the one that stands for it. -/
theorem head_of_runs {next : Shot} {kept : List Shot} {runs : List (List Shot)}
    (each : List.Forall₂ StandsFor (next :: kept) runs) :
    ∃ s rest, runs.flatten = s :: rest ∧ s.picture = next.picture := by
  obtain ⟨run, runs, stands, -, rfl⟩ := List.forall₂_cons_left_iff.mp each
  obtain ⟨s, later, rfl, picture, -⟩ := stands.first
  exact ⟨s, later ++ runs.flatten, rfl, picture.symm⟩

/-- Whatever stands for the runs of some shots, with no two neighbours alike, is
those shots folded. -/
theorem folded_flatten {kept : List Shot} {runs : List (List Shot)}
    (each : List.Forall₂ StandsFor kept runs) (apart : kept.IsChain Apart) :
    folded runs.flatten = kept := by
  induction each with
  | nil => rfl
  | @cons s run kept runs stands each ih =>
      obtain ⟨t, later, rfl, -⟩ := stands.first
      obtain rfl := stands.eq_extended
      have like : ∀ u ∈ later, u.alike t = true := (List.forall_mem_cons.mp stands.alike).2
      have first : ∀ u ∈ runs.flatten.head?, Apart (t.extended (totalDuration later)) u := by
        intro u begins
        cases each with
        | nil => cases begins
        | cons stands' each' =>
            obtain ⟨u', rest, whole, picture⟩ := head_of_runs (.cons stands' each')
            rw [whole, List.head?_cons, Option.mem_some_iff] at begins
            subst begins
            rw [Apart, alike, picture]
            exact (List.isChain_cons_cons.mp apart).1
      have rest : folded runs.flatten = kept := ih apart.tail
      rw [List.flatten_cons, List.cons_append, folded, foldOnto_append like,
        foldOnto_of_apart first, rest]

/-- Folding is the one way to compress shots. -/
theorem compresses_iff {kept shots : List Shot} : Compresses kept shots ↔ kept = folded shots := by
  constructor
  · rintro ⟨⟨runs, rfl, each⟩, apart⟩
    exact (folded_flatten each apart).symm
  · rintro rfl
    exact ⟨folded_runs shots, isChain_folded shots⟩

/-- Pictures and timings that are paired are all there. -/
theorem map_zipWith {pictures : List Raster} {timings : List Timing}
    (count : pictures.length = timings.length) :
    (pictures.zipWith Shot.mk timings).map (·.picture) = pictures ∧
      (pictures.zipWith Shot.mk timings).map (·.timing) = timings := by
  induction pictures generalizing timings with
  | nil =>
      obtain rfl := List.length_eq_zero_iff.mp count.symm
      exact ⟨rfl, rfl⟩
  | cons r pictures ih =>
      cases timings with
      | nil => cases count
      | cons t timings =>
          obtain ⟨shown, timed⟩ := ih (Nat.succ.inj count)
          rw [List.zipWith_cons_cons, List.map_cons, List.map_cons, shown, timed]
          exact ⟨rfl, rfl⟩

/-- Folding is run-length compression.  Pictures with as many timings are folded to
pictures with as many timings, which stand for the runs of the former in order: each
is the first picture of its run, with the disposal of that one and the time of the
whole run, and no two neighbours have the same bytes.  Nothing else stands for them so, and
folding again changes nothing. -/
theorem runs_compressed {pictures : List Raster} {timings : List Timing} (some_ : pictures ≠ [])
    (paired : pictures.length = timings.length) :
    let shots := pictures.zipWith Shot.mk timings
    let kept := folded shots
    (shots.map (·.picture) = pictures ∧ shots.map (·.timing) = timings) ∧
      (kept ≠ [] ∧ (kept.map (·.picture)).length = (kept.map (·.timing)).length) ∧
        Compresses kept shots ∧ (∀ other, Compresses other shots → other = kept) ∧
          folded kept = kept := by
  intro shots kept
  obtain ⟨shown, timed⟩ := map_zipWith paired
  have nonempty : shots ≠ [] := by
    intro none_
    apply some_
    rw [← shown, show pictures.zipWith Shot.mk timings = [] from none_, List.map_nil]
  refine ⟨⟨shown, timed⟩, ⟨folded_ne_nil nonempty, ?_⟩, compresses_iff.mpr rfl,
    fun other compresses => compresses_iff.mp compresses,
    folded_of_isChain (isChain_folded shots)⟩
  rw [List.length_map, List.length_map]

/-- A gray picture of one pixel. -/
def dot (v : UInt8) : Raster := .filled .gray 1 1 fun _ => v

/-- Three black dots, two white ones and a black one again are three shots. -/
theorem dots_compressed :
    folded ([dot 0, dot 0, dot 0, dot 255, dot 255, dot 0].zipWith Shot.mk
        [⟨10, 1⟩, ⟨20, 2⟩, ⟨30, 3⟩, ⟨40, 2⟩, ⟨50, 1⟩, ⟨60, 0⟩]) =
      [⟨dot 0, ⟨60, 1⟩⟩, ⟨dot 255, ⟨90, 2⟩⟩, ⟨dot 0, ⟨60, 0⟩⟩] := by
  have compressed := @runs_compressed [dot 0, dot 0, dot 0, dot 255, dot 255, dot 0]
    [⟨10, 1⟩, ⟨20, 2⟩, ⟨30, 3⟩, ⟨40, 2⟩, ⟨50, 1⟩, ⟨60, 0⟩] (List.cons_ne_nil _ _) rfl
  refine (compressed.2.2.2.1 _ ⟨⟨[[⟨dot 0, ⟨10, 1⟩⟩, ⟨dot 0, ⟨20, 2⟩⟩, ⟨dot 0, ⟨30, 3⟩⟩],
    [⟨dot 255, ⟨40, 2⟩⟩, ⟨dot 255, ⟨50, 1⟩⟩], [⟨dot 0, ⟨60, 0⟩⟩]], rfl, ?_⟩, ?_⟩).symm
  · refine .cons ⟨⟨_, _, rfl, rfl, rfl⟩, ?_, rfl⟩ (.cons ⟨⟨_, _, rfl, rfl, rfl⟩, ?_, rfl⟩
      (.cons ⟨⟨_, _, rfl, rfl, rfl⟩, ?_, rfl⟩ .nil)) <;> simp [alike]
  · have black : (dot 0).packed ≠ (dot 255).packed := by decide
    simp [Apart, alike, black, black.symm]

end Shot

end Darkroom
