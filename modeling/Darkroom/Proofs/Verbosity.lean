/-
# Darkroom.Proofs.Verbosity -- what one more of a counting flag does to the level

Where no level is asked for by name, the level is a function of the environment and
of the balance of the flags (`atBalance`).  The flags pick the same three levels in
every environment, the quieter the lower the balance (`weight_ofBalance_anti`), and
the environment has its say at the balance zero only, where the flags cancel out.

So one more of a flag moves the level in its own direction or leaves it, but at the
one place where the two sources meet on the wrong side: from an environment that asks
for less than warnings, the flag that asks for less comes back to warnings
(`rises_iff`).
-/
import Darkroom.Log.Setup
import Mathlib.Tactic.SplitIfs

namespace Darkroom.Log

set_option autoImplicit false

/-! ## Wishes -/

namespace Wish

/-- No level is asked for by name; an empty name is none. -/
def Unnamed (w : Wish) : Prop := ∀ name, w.name = some name → name = ""

/-- One more of the flag that asks for less. -/
def quieter (w : Wish) : Wish := { w with quiet := w.quiet + 1 }

/-- One more of the flag that asks for more. -/
def louder (w : Wish) : Wish := { w with verbose := w.verbose + 1 }

end Wish

namespace Level

/-! ## The level of a balance -/

/-- The level that the flags and the environment come to. -/
def atBalance (environment : Option String) (balance : Int) : Level :=
  if balance = 0 then ofEnvironment environment else ofBalance balance

theorem ofWish_unnamed {w : Wish} (unnamed : w.Unnamed) :
    ofWish w = .ok (atBalance w.environment (w.verbose - w.quiet)) := by
  have none_ : (w.name.filter fun name => !name.isEmpty) = none := by
    cases given : w.name with
    | none => rfl
    | some name =>
      rw [unnamed name given]
      rfl
  rw [ofWish, none_]
  rfl

/-- The environment asks for less than warnings. -/
def Muted (environment : Option String) : Prop :=
  ∃ name, environment = some name ∧ (ofText? name = some .error ∨ ofText? name = some .critical)

theorem muted_iff {environment : Option String} :
    Muted environment ↔ Level.warning.weight < (ofEnvironment environment).weight := by
  cases environment with
  | none => simp [Muted, ofEnvironment, weight]
  | some name =>
    cases read : ofText? name with
    | none => simp [Muted, ofEnvironment, read, weight]
    | some level => cases level <;> simp [Muted, ofEnvironment, read, weight]

/-- No level is lower than the one that the loud flag picks. -/
theorem debug_le (level : Level) : Level.debug.weight ≤ level.weight := by
  cases level <;> decide

/-- The flags alone keep their direction. -/
theorem weight_ofBalance_anti {balance other : Int} (apart : other ≠ 0) (le : balance ≤ other) :
    (ofBalance other).weight ≤ (ofBalance balance).weight := by
  unfold ofBalance
  split_ifs <;> first | decide | omega

/-- One more towards the louder side makes a log quieter just where it leaves the
level to an environment that asks for less than warnings. -/
theorem rises_iff (environment : Option String) (balance : Int) :
    (atBalance environment balance).weight < (atBalance environment (balance + 1)).weight ↔
      balance = -1 ∧ Muted environment := by
  rw [muted_iff]
  by_cases below : balance = -1
  · subst below
    simp only [true_and]
    rfl
  · have next : balance + 1 ≠ 0 := by omega
    simp only [below, false_and, iff_false, Nat.not_lt]
    rw [atBalance, if_neg next]
    unfold atBalance
    split_ifs with cancels
    · subst cancels
      exact debug_le _
    · exact weight_ofBalance_anti next (by omega)

/-- One more of a flag moves the level in the direction of the flag or leaves it, but
where it crosses between the environment's level and a lower one of the flags: where
the flags cancel out and the environment asks for less than warnings, one more of the
quiet flag comes down to warnings, and back from there one more of the other flag goes
up to what the environment asks for. -/
theorem flags_move_level {w : Wish} (unnamed : w.Unnamed) :
    ∃ now quieter louder, ofWish w = .ok now ∧ ofWish w.quieter = .ok quieter ∧
      ofWish w.louder = .ok louder ∧
      (quieter.weight < now.weight ↔ w.verbose = w.quiet ∧ Muted w.environment) ∧
      (now.weight < louder.weight ↔ w.verbose + 1 = w.quiet ∧ Muted w.environment) := by
  refine ⟨_, _, _, ofWish_unnamed unnamed, ofWish_unnamed (w := w.quieter) unnamed,
    ofWish_unnamed (w := w.louder) unnamed, ?_, ?_⟩
  · have step := rises_iff w.environment (w.verbose - (w.quiet + 1))
    rw [show w.verbose - (w.quiet + 1) + 1 = w.verbose - w.quiet by omega,
      show w.verbose - (w.quiet + 1) = -1 ↔ w.verbose = w.quiet by omega] at step
    exact step
  · have step := rises_iff w.environment (w.verbose - w.quiet)
    rw [show w.verbose - w.quiet + 1 = w.verbose + 1 - w.quiet by omega,
      show w.verbose - w.quiet = -1 ↔ w.verbose + 1 = w.quiet by omega] at step
    exact step

/-- With errors asked for by the environment, one more of the quiet flag shows warnings
too, and from there one more of the loud flag hides them again. -/
theorem quiet_speaks_up :
    ofWish { environment := some "error" } = .ok .error ∧
      ofWish (Wish.quieter { environment := some "error" }) = .ok .warning ∧
      ofWish (Wish.louder { quiet := 1, environment := some "error" }) = .ok .error ∧
      Level.warning.weight < Level.error.weight :=
  ⟨rfl, rfl, rfl, by decide⟩

/-- Two of each flag in an environment that asks for errors, in letters of both cases. -/
def sternWish : Wish :=
  { name := some "", verbose := 2, quiet := 2, environment := some "Error" }

/-- One more of the loud flag shows more; one more of the quiet flag does, too. -/
theorem sternWish_moved : sternWish.Unnamed ∧
    ∃ now quieter louder, ofWish sternWish = .ok now ∧ ofWish sternWish.quieter = .ok quieter ∧
      ofWish sternWish.louder = .ok louder ∧
      quieter.weight < now.weight ∧ louder.weight ≤ now.weight := by
  have unnamed : sternWish.Unnamed := by
    intro name given
    exact (Option.some.inj given).symm
  obtain ⟨now, quieter, louder, isNow, isQuieter, isLouder, falls, rises⟩ :=
    flags_move_level unnamed
  have muted : Muted sternWish.environment := ⟨"Error", rfl, .inl rfl⟩
  refine ⟨unnamed, now, quieter, louder, isNow, isQuieter, isLouder, falls.mpr ⟨rfl, muted⟩, ?_⟩
  refine Nat.le_of_not_lt fun up => ?_
  have apart : sternWish.verbose + 1 = sternWish.quiet := (rises.mp up).1
  exact absurd apart (by decide)

end Level

end Darkroom.Log
