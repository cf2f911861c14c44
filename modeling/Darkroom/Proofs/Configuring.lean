/-
# Darkroom.Proofs.Configuring -- what a log shows after any number of wishes

A log is given one wish after another.  A wish that names no level is refused and
leaves the log as it was (`configure_misnamed`); any other one brings the log to its
level (`configure_named`).  There are two ways there: handlers that are in place are
all moved to the level, and where there are none one is put in that shows all it is
given.  So the same wishes leave different handlers behind in different logs, and no
state can be computed from the last wish alone.

What does not differ is what is written.  A log that `Follows` a level writes the
records from the level on, those of the picture library from `info` on at most, each
by all its handlers (`Follows.copies_eq`): a handler that shows all it is given shows
what the root lets through.  One wish keeps or replaces the level that is followed
(`Reached.configure`), and by induction along the wishes a log follows the last one
that was not refused (`reached_after`).

`Follows.visible_eq` says that the lines of a run are those that such a log writes.
-/
import Darkroom.Command
import Mathlib.Data.List.Induction
import Mathlib.Data.Nat.Basic

namespace Darkroom.Log

set_option autoImplicit false

/-! ## Wishes that are refused -/

namespace Level

theorem mem_all (level : Level) : level ∈ all := by
  cases level <;> decide

/-- A name is read unless it is that of no level, in letters of either case. -/
theorem ofText?_eq_none {name : String} :
    ofText? name = none ↔
      ∀ level : Level, level.name ≠ String.ofList (name.toList.map Char.toLower) := by
  simp only [ofText?, ofName?, List.find?_eq_none, beq_iff_eq]
  exact ⟨fun unread level => unread level (mem_all level), fun other level _ => other level⟩

end Level

namespace Wish

/-- A level is asked for by a name that no level has, in letters of either case; an
empty name asks for none. -/
def Misnamed (w : Wish) : Prop :=
  ∃ name, w.name = some name ∧ name ≠ "" ∧
    ∀ level : Level, level.name ≠ String.ofList (name.toList.map Char.toLower)

/-- The level that a wish comes to, unless it is refused. -/
def granted (w : Wish) : Option Level := (Level.ofWish w).toOption

theorem filter_name_eq_some {w : Wish} {name : String} :
    (w.name.filter fun name => !name.isEmpty) = some name ↔ w.name = some name ∧ name ≠ "" := by
  simp [Option.filter_eq_some_iff]

theorem refused_of_misnamed {w : Wish} (misnamed : w.Misnamed) :
    ∃ name, Level.ofWish w = .error (.unknownLevel name) := by
  obtain ⟨name, asked, some_, other⟩ := misnamed
  refine ⟨name, ?_⟩
  rw [Level.ofWish, filter_name_eq_some.mpr ⟨asked, some_⟩]
  dsimp only
  rw [Level.ofText?_eq_none.mpr other]

theorem granted_of_not_misnamed {w : Wish} (named : ¬ w.Misnamed) :
    ∃ level, Level.ofWish w = .ok level := by
  unfold Level.ofWish
  split
  case h_2 => exact ⟨_, rfl⟩
  case h_1 name asked =>
    obtain ⟨asked, some_⟩ := filter_name_eq_some.mp asked
    cases read : Level.ofText? name with
    | some level => exact ⟨level, rfl⟩
    | none => exact absurd ⟨name, asked, some_, Level.ofText?_eq_none.mp read⟩ named

end Wish

/-! ## What is written -/

/-- Where a record comes from: the program, or the picture library below it. -/
inductive Source
  | program | library
  deriving DecidableEq

/-- What is to be written to a log, as far as levels decide about it. -/
structure Record where
  source : Source
  weight : Nat

/-- The least weight that is written of a source at a level. -/
def Source.floor (level : Level) : Source → Nat
  | .program => level.weight
  | .library => max level.weight Level.info.weight

namespace Setup

variable {s now : Setup} {level : Level} {w : Wish}

/-- The weight below which nothing of a source comes to the handlers: what the library
has no level of its own for is left to the root. -/
def gate (s : Setup) : Source → Nat
  | .program => s.root
  | .library => if s.library = 0 then s.root else s.library

/-- How often a record is written: by each handler that shows its weight.  A log without
handlers still writes warnings and what is graver, once. -/
def copies (s : Setup) (r : Record) : Nat :=
  if r.weight < s.gate r.source then 0
  else if s.handlers = [] then if Level.warning.weight ≤ r.weight then 1 else 0
  else (s.handlers.filter (· ≤ r.weight)).length

/-! ## Following a level -/

/-- The log is at a level: whatever comes through the root and a handler is of that
weight, there is a handler, and the library is held at `info` at least. -/
structure Follows (s : Setup) (level : Level) : Prop where
  root : s.root = level.weight
  handlers : ∀ h ∈ s.handlers, max s.root h = level.weight
  library : s.library = max level.weight Level.info.weight
  handled : s.handlers ≠ []

theorem Follows.gate_eq (follows : s.Follows level) (source : Source) :
    s.gate source = source.floor level := by
  cases source with
  | program => exact follows.root
  | library =>
    have held : s.library ≠ 0 := by
      rw [follows.library]
      exact Nat.ne_zero_of_lt (lt_of_lt_of_le (by decide : 0 < Level.info.weight) (le_max_right _ _))
    rw [gate, if_neg held, follows.library]
    rfl

theorem Follows.le_floor (source : Source) : level.weight ≤ source.floor level := by
  cases source with
  | program => exact le_rfl
  | library => exact le_max_left _ _

/-- A log at a level writes each record from the level on by all its handlers, and
nothing else. -/
theorem Follows.copies_eq (follows : s.Follows level) (r : Record) :
    s.copies r = if r.source.floor level ≤ r.weight then s.handlers.length else 0 := by
  rw [copies, follows.gate_eq, if_neg follows.handled]
  by_cases heavy : r.source.floor level ≤ r.weight
  · rw [if_neg (Nat.not_lt.mpr heavy), if_pos heavy]
    have shown : ∀ h ∈ s.handlers, decide (h ≤ r.weight) = true := by
      intro h member
      rw [decide_eq_true_eq]
      calc h ≤ max s.root h := le_max_right _ _
        _ = level.weight := follows.handlers h member
        _ ≤ r.source.floor level := le_floor _
        _ ≤ r.weight := heavy
    rw [List.filter_eq_self.mpr shown]
  · rw [if_pos (Nat.lt_of_not_le heavy), if_neg heavy]

/-- The lines that a run shows at a level are those that a log at the level writes. -/
theorem Follows.visible_eq (follows : s.Follows level) (lines : List Command.Line) :
    Command.visible level lines =
      lines.filter fun l => 0 < s.copies ⟨.program, l.level.weight⟩ := by
  refine List.filter_congr fun l _ => ?_
  rw [follows.copies_eq, decide_eq_decide]
  have some_ : 0 < s.handlers.length := List.length_pos_iff.mpr follows.handled
  by_cases heavy : level.weight ≤ l.level.weight
  · simp [Source.floor, heavy, some_]
  · simp [Source.floor, heavy]

/-! ## One wish -/

/-- Both ways to a level come to it. -/
theorem follows_withLevel (s : Setup) (level : Level) : (s.withLevel level).Follows level where
  root := rfl
  handlers := by
    intro h member
    unfold withLevel at member ⊢
    dsimp only at member ⊢
    split at member
    · obtain rfl := List.mem_singleton.mp member
      exact Nat.max_zero _
    · obtain ⟨_, -, rfl⟩ := List.mem_map.mp member
      exact max_self _
  library := rfl
  handled := by
    unfold withLevel
    dsimp only
    split
    · exact List.cons_ne_nil _ _
    · simpa using ‹_›

theorem length_withLevel (s : Setup) (level : Level) :
    (s.withLevel level).handlers.length = max s.handlers.length 1 := by
  unfold withLevel
  dsimp only
  split
  case isTrue none_ => simp [none_]
  case isFalse some_ =>
    have one : 0 < s.handlers.length := List.length_pos_iff.mpr some_
    rw [List.length_map]
    omega

/-- A wish that names no level changes nothing. -/
theorem configure_misnamed (s : Setup) (misnamed : w.Misnamed) :
    ∃ fault, s.configure w = (.error fault, s) ∧ fault.kind = .level := by
  obtain ⟨name, refused⟩ := Wish.refused_of_misnamed misnamed
  exact ⟨.unknownLevel name, by rw [configure, refused], rfl⟩

/-- Any other wish is carried out. -/
theorem configure_named (s : Setup) (named : ¬ w.Misnamed) :
    ∃ level, s.configure w = (.ok level, s.withLevel level) := by
  obtain ⟨level, granted⟩ := Wish.granted_of_not_misnamed named
  exact ⟨level, by rw [configure, granted]⟩

/-! ## Any number of wishes -/

/-- The log after some wishes, one after another. -/
def after (s : Setup) (wishes : List Wish) : Setup :=
  wishes.foldl (fun s w => (s.configure w).2) s

/-- The level of the last of some wishes that is not refused. -/
def lastLevel (wishes : List Wish) : Option Level :=
  (wishes.filterMap Wish.granted).getLast?

theorem after_concat (s : Setup) (wishes : List Wish) (w : Wish) :
    s.after (wishes ++ [w]) = ((s.after wishes).configure w).2 := by
  simp [after]

theorem lastLevel_concat (wishes : List Wish) (w : Wish) :
    lastLevel (wishes ++ [w]) = w.granted.or (lastLevel wishes) := by
  unfold lastLevel
  rw [List.filterMap_append, List.getLast?_append]
  cases wished : w.granted with
  | none =>
    rw [List.filterMap_cons_none wished]
    rfl
  | some level =>
    rw [List.filterMap_cons_some wished]
    rfl

/-- What a log has come to from where it began: nothing has changed while no wish was
carried out, and from then on it follows a level, with the handlers it began with or
with the one that was put in. -/
def Reached (s now : Setup) : Option Level → Prop
  | none => now = s
  | some level => now.Follows level ∧ now.handlers.length = max s.handlers.length 1

/-- One more wish. -/
theorem Reached.configure {before : Option Level} (reached : s.Reached now before) (w : Wish) :
    s.Reached (now.configure w).2 (w.granted.or before) := by
  rw [Wish.granted, Setup.configure]
  cases Level.ofWish w with
  | error fault => exact reached
  | ok level =>
    refine ⟨follows_withLevel now level, ?_⟩
    cases before with
    | none =>
      obtain rfl : now = s := reached
      exact length_withLevel now level
    | some earlier =>
      have counted := reached.2
      have now_ := length_withLevel now level
      dsimp only
      omega

theorem reached_after (s : Setup) (wishes : List Wish) :
    s.Reached (s.after wishes) (lastLevel wishes) := by
  induction wishes using List.reverseRecOn with
  | nil => rfl
  | append_singleton wishes w ih =>
    rw [after_concat, lastLevel_concat]
    exact ih.configure w

/-- A log after any wishes.  The next wish is refused, and changes nothing, if it names no
level; otherwise it brings the log to its level.  As long as every wish was refused the
log is as it began.  Once one was not, the log follows the last such wish, and by that
wish alone it is settled which records are written, by as many handlers as there were to
begin with or by the one that was put in; of the library nothing below `info` is. -/
theorem last_wish_followed (s : Setup) (wishes : List Wish) (w : Wish) :
    (w.Misnamed → ∃ fault, (s.after wishes).configure w = (.error fault, s.after wishes) ∧
      fault.kind = .level) ∧
    (¬ w.Misnamed → ∃ level now, (s.after wishes).configure w = (.ok level, now) ∧
      now.Follows level) ∧
    (lastLevel wishes = none → s.after wishes = s) ∧
    ∀ level, lastLevel wishes = some level →
      (s.after wishes).Follows level ∧
      (∀ r, (s.after wishes).copies r =
        if r.source.floor level ≤ r.weight then max s.handlers.length 1 else 0) ∧
      ∀ weight < Level.info.weight, (s.after wishes).copies ⟨.library, weight⟩ = 0 := by
  have reached := reached_after s wishes
  refine ⟨configure_misnamed _, ?_, ?_, ?_⟩
  · intro named
    obtain ⟨level, granted⟩ := configure_named (s.after wishes) named
    exact ⟨level, _, granted, follows_withLevel _ level⟩
  · intro refused
    rw [refused] at reached
    exact reached
  · intro level followed
    rw [followed] at reached
    obtain ⟨follows, counted⟩ := reached
    refine ⟨follows, ?_, ?_⟩
    · intro r
      rw [follows.copies_eq, counted]
    · intro weight light
      have under : weight < Source.floor level .library := lt_of_lt_of_le light (le_max_right _ _)
      rw [follows.copies_eq, if_neg (Nat.not_le.mpr under)]

/-- A wish that names no level. -/
def loudWish : Wish := { name := some "LOUD", verbose := 1 }

/-- Debugging is asked for, then a level that is none, then errors only, then again a
level that is none. -/
def mixedWishes : List Wish := [{ verbose := 1 }, loudWish, { quiet := 2 }, loudWish]

theorem loudWish_misnamed : loudWish.Misnamed := by
  refine ⟨"LOUD", rfl, by decide, ?_⟩
  intro level
  cases level <;> decide

theorem mixedWishes_settled : lastLevel mixedWishes = some .error := by decide

/-- Two handlers write an error twice and a warning not at all, whatever was wished for in
between; in a log that has none, one is put in. -/
theorem mixedWishes_followed :
    let crowd : Setup := { handlers := [0, 0] }
    let alone : Setup := {}
    crowd.after [loudWish] = crowd ∧
      (∃ fault, (crowd.after mixedWishes).configure loudWish =
        (.error fault, crowd.after mixedWishes) ∧ fault.kind = .level) ∧
      (∃ level now, (crowd.after mixedWishes).configure { name := some "Info" } =
        (.ok level, now) ∧ now.Follows level) ∧
      (crowd.after mixedWishes).copies ⟨.program, 40⟩ = 2 ∧
      (crowd.after mixedWishes).copies ⟨.program, 30⟩ = 0 ∧
      (crowd.after mixedWishes).copies ⟨.library, 10⟩ = 0 ∧
      (alone.after mixedWishes).copies ⟨.program, 40⟩ = 1 := by
  intro crowd alone
  have named : ¬ Wish.Misnamed { name := some "Info" } := by
    rintro ⟨name, asked, -, other⟩
    obtain rfl := Option.some.inj asked
    exact other .info (by decide)
  obtain ⟨refused, -, -, followed⟩ := last_wish_followed crowd mixedWishes loudWish
  obtain ⟨-, carried, -, -⟩ := last_wish_followed crowd mixedWishes { name := some "Info" }
  obtain ⟨-, -, unchanged, -⟩ := last_wish_followed crowd [loudWish] loudWish
  obtain ⟨-, copied, quiet⟩ := followed .error mixedWishes_settled
  obtain ⟨-, -, -, followed'⟩ := last_wish_followed alone mixedWishes loudWish
  obtain ⟨-, copied', -⟩ := followed' .error mixedWishes_settled
  exact ⟨unchanged (by decide), refused loudWish_misnamed, carried named, copied _, copied _,
    quiet 10 (by decide), copied' _⟩

end Setup

end Darkroom.Log
