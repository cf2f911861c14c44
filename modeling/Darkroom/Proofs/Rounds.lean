/-
# Darkroom.Proofs.Rounds -- turning an animation over and over

`Engine.rounds` answers requests one after another, each on the file that the
one before has left.  An animation that the engine has made is settled
(`settled_of_encoded`), and each turn lays it another way (`reply_turn`), so after
any number of turns it is laid the composed way (`rounds_laid`).  Turns that come
to nothing together leave it as it was: `rounds_upright`.
-/
import Darkroom.Proofs.Rereading

namespace Darkroom.Engine

set_option autoImplicit false

/-- Answer requests one after another, each on the file that the one before has
left; `reread` says what is found in a file that was written. -/
def rounds (reread : Encoding → Opened) (given : Option Marks) (look : Lookup) :
    Shelf → Encoding → List Turn → Outcome Encoding
  | _, e, [] => .ok e
  | shelf, e, turn :: rest =>
      let (answer, later) :=
        transform given shelf look (reread e) (.text turn.operation.name) turn.options
      match answer.outcome with
      | .error fault => .error fault
      | .ok .unchanged => rounds reread given look later e rest
      | .ok (.encoded next) => rounds reread given look later next rest

variable {c : Container} {operation : Value} {o : Options} {given : Option Marks} {shelf : Shelf}
  {look : Lookup} {reread : Encoding → Opened} {origin : Animation}

/-- An animation comes out of the frames of its source. -/
theorem transformed_of_encoded
    (produced : reply given shelf look (some c) operation o = .ok (.encoded (.animation origin))) :
    Encoding.Recordable origin ∧ ∃ (first : Frame) (step : Step),
      (Animation.transformed c first step o step.resamples).outcome = .ok origin := by
  obtain ⟨prepared, marks, made, finished⟩ := prepared_of_reply produced
  rcases finish_eq_encoded finished with
    ⟨picture, format, quality, rfl, encoded⟩ | ⟨a, rfl, encoded⟩
  · obtain ⟨p, impossible, -⟩ := Encoding.ofPicture_eq_ok encoded
    exact absurd impossible.symm (Encoding.single_ne_animation origin)
  obtain ⟨same, recordable⟩ := Encoding.ofAnimation_eq_ok.mp encoded
  obtain rfl := Encoding.animation.inj same
  refine ⟨recordable, ?_⟩
  obtain ⟨step, f, -, -, made⟩ := built_of_prepare made
  split_ifs at made with isGif
  · obtain ⟨_, first, rest, same, frames⟩ := frames_of_prepareAnimation made
    obtain rfl := Option.some.inj same
    exact ⟨first, animationStep step, transformed_of_prepared frames made⟩
  · cases decoded : (Opened.still (some c)).outcome with
    | error fault => simp [prepareStill, decoded] at made
    | ok opened =>
        rcases prepareStill_cases decoded made with impossible | ⟨picture, impossible⟩ <;>
          cases impossible

/-- What the engine has made of frames shown in whole hundredths of a second is
settled. -/
theorem settled_of_encoded
    (produced : reply given shelf look (some c) operation o = .ok (.encoded (.animation origin)))
    (whole : ∀ f ∈ c.frames, 10 ∣ f.timing.duration) : origin.Settled := by
  obtain ⟨recordable, first, step, joined⟩ := transformed_of_encoded produced
  obtain ⟨pictures, -, shots, -⟩ := Animation.transformed_eq_ok joined
  refine ⟨fun s member => ?_, ?_, recordable⟩
  · obtain ⟨t, shown, same⟩ := Shot.mem_folded member
    rw [same]
    exact Animation.fixed_of_transformed joined t shown
  · apply Shot.dvd_folded
    intro s member
    rw [shots] at member
    obtain ⟨f, inside, same⟩ := List.mem_map.mp (Animation.mem_zipWith member).2
    rw [← same]
    exact whole f inside

/-- After any number of turns an animation is laid the composed way. -/
theorem rounds_laid (given : Option Marks) (look : Lookup) (settled : origin.Settled)
    (reads : ∀ g a, Animation.IsLaid g origin a →
      ∃ back, reread (.animation a) = some back ∧ ReadsBack back a)
    (word : List Turn) (later : Shelf) {g : Orientation} {a : Animation}
    (laid : Animation.IsLaid g origin a) :
    ∃ (t : Orientation) (b : Animation),
      rounds reread given look later (.animation a) word = .ok (.animation b) ∧
        t.motion = Motion.composed (word.map Turn.motion) ∘ g.motion ∧
        Animation.IsLaid t origin b := by
  induction word generalizing g a later with
  | nil => exact ⟨g, a, rfl, rfl, laid⟩
  | cons turn rest ih =>
      obtain ⟨back, found, readsBack⟩ := reads g a laid
      obtain ⟨h, b, motion, answered, turned⟩ :=
        reply_turn (settled.laid laid) readsBack given later look turn
      obtain ⟨t, last, ran, composed, laidLast⟩ := ih _ (laid.trans turned)
      refine ⟨t, last, ?_, ?_, laidLast⟩
      · rw [reply] at answered
        rw [rounds, found]
        simp only [answered]
        exact ran
      · rw [composed, Orientation.motion_andThen, motion]
        rfl

/-- Turns whose motions come to nothing give an animation that the engine has made back as
it was, picture by picture, with its times, its disposals and its loop. -/
theorem rounds_upright (reread : Encoding → Opened)
    (produced : reply given shelf look (some c) operation o = .ok (.encoded (.animation origin)))
    (whole : ∀ f ∈ c.frames, 10 ∣ f.timing.duration)
    (reads : ∀ g a, Animation.IsLaid g origin a →
      ∃ back, reread (.animation a) = some back ∧ ReadsBack back a)
    (later : Shelf) (word : List Turn)
    (nothing : ∀ p, Motion.composed (word.map Turn.motion) p = p) :
    ∃ a, rounds reread given look later (.animation origin) word = .ok (.animation a) ∧
      a.written = origin.written ∧ a.loop = origin.loop ∧ a.width = origin.width ∧
        a.height = origin.height := by
  obtain ⟨t, a, ran, composed, laid⟩ := rounds_laid given look (settled_of_encoded produced whole)
    reads word later (Animation.IsLaid.refl origin)
  have still : t.motion = id := composed.trans (funext nothing)
  rw [Orientation.motion_eq_id still] at laid
  obtain ⟨written, loop, width, height⟩ := laid
  refine ⟨a, ran, ?_, loop, width, height⟩
  rw [written, List.map_congr_left fun s _ => Shot.laid_upright s, List.map_id']

/-! ## A run of turns -/

/-- A picture of two pixels in fixed colours. -/
def pair (left right : UInt8) : Raster := .ofIndices 2 1 fun x _ => if x = 0 then left else right

def twoShots : Animation where
  shots := [⟨pair 0 1, ⟨100, 1⟩⟩, ⟨pair 1 0, ⟨50, 2⟩⟩]
  width := 2
  height := 1
  loop := some 3
  nonempty := by decide
  sized := by decide

theorem written_twoShots : twoShots.written = twoShots.shots := by
  rfl

theorem settled_twoShots : twoShots.Settled := by
  refine ⟨?_, ?_, ?_⟩
  · rw [written_twoShots]
    intro s member
    rcases List.mem_pair.mp member with rfl | rfl <;> exact ⟨rfl, rfl, rfl⟩
  · rw [written_twoShots]
    decide
  · refine ⟨rfl, rfl, ?_, ?_⟩
    · intro n repeated
      obtain rfl := Option.some.inj repeated
      rfl
    · rw [written_twoShots]
      intro s member
      rcases List.mem_pair.mp member with rfl | rfl <;> rfl

theorem reported_twoShots : Shot.Reported 0 twoShots.written :=
  written_twoShots ▸ ⟨1, rfl, by decide, by decide, 2, rfl, by decide, by decide, trivial⟩

def quarter : Turn where
  operation := .rotate
  options := { degree := .number (.int 90) }
  motion p := (-p.2, p.1)
  named := .quarter rfl rfl
  valid := rfl
  asksGif := .inl rfl

def mirror : Turn where
  operation := .flip
  options := { position := .text "h" }
  motion p := (-p.1, p.2)
  named := .horizontal rfl
  valid := rfl
  asksGif := .inl rfl

/-- Two shots turned by a quarter, and twice each by a quarter and in the mirror. -/
theorem twoShots_upright : ∃ origin a,
    reply none {} (Disk.read {}) (some (Encoding.animation twoShots).container)
      (.text quarter.operation.name) quarter.options = .ok (.encoded (.animation origin)) ∧
    rounds (fun e => some e.container) none (Disk.read {}) {} (.animation origin)
      [quarter, mirror, quarter, mirror] = .ok (.animation a) ∧ a.written = origin.written := by
  have back := container_readsBack settled_twoShots reported_twoShots
  obtain ⟨_, origin, -, produced, laid⟩ :=
    reply_turn settled_twoShots back none {} (Disk.read {}) quarter
  have reads : ∀ g a, Animation.IsLaid g origin a →
      ∃ back, some (Encoding.animation a).container = some back ∧ ReadsBack back a := by
    intro g a turned
    have whole := laid.trans turned
    refine ⟨_, rfl, container_readsBack (settled_twoShots.laid whole) ?_⟩
    rw [whole.written]
    exact Shot.reported_map (fun _ => rfl) reported_twoShots
  have nothing (p : ℤ × ℤ) :
      Motion.composed ([quarter, mirror, quarter, mirror].map Turn.motion) p = p := by
    simp [Motion.composed, quarter, mirror]
  obtain ⟨a, ran, same, -⟩ := rounds_upright (fun e => some e.container) produced
    back.hundredths reads {} [quarter, mirror, quarter, mirror] nothing
  exact ⟨origin, a, produced, ran, same⟩

end Darkroom.Engine
