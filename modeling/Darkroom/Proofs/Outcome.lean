/-
# Darkroom.Proofs.Outcome -- taking outcomes apart

A result that is there was there at every step on the way: `bind_eq_ok` peels a
computation one step at a time, for plain outcomes and, through
`Logged.outcome_bind`, for those with entries.

A fault that comes out was met at one of the steps: `Only` says of all faults of a
computation what it says of those of its steps.  `Gives` does so for the result.
`RoomAllows` says that there is a result, unless there is no room for it.
-/
import Darkroom.Log
import Mathlib.Data.List.Forall2

namespace Darkroom.Outcome

set_option autoImplicit false

variable {ε α β : Type}

@[simp] theorem ok_bind (a : α) (f : α → Except ε β) : (Except.ok a >>= f) = f a := rfl

@[simp] theorem error_bind (e : ε) (f : α → Except ε β) :
    ((Except.error e : Except ε α) >>= f) = .error e := rfl

@[simp] theorem pure_eq (a : α) : (pure a : Except ε α) = .ok a := rfl

theorem bind_eq_ok {x : Except ε α} {f : α → Except ε β} {b : β} :
    x >>= f = .ok b ↔ ∃ a, x = .ok a ∧ f a = .ok b := by
  cases x with
  | ok a => simp
  | error e => simp

theorem bind_eq_error {x : Except ε α} {f : α → Except ε β} {e : ε} :
    x >>= f = .error e ↔ x = .error e ∨ ∃ a, x = .ok a ∧ f a = .error e := by
  cases x with
  | ok a => simp
  | error e => simp

/-- Past a check there is a result only where the check does not refuse. -/
theorem guard_eq_ok {c : Prop} [Decidable c] {e : ε} {rest : Unit → Except ε β} {b : β} :
    (if c then (Except.error e : Except ε Unit) >>= rest else rest ()) = .ok b ↔
      ¬c ∧ rest () = .ok b := by
  split <;> simp [*]

/-- A computation comes to a result if each of its two parts does. -/
theorem bind_found {x : Except ε α} {f : α → Except ε β} {P : α → Prop} {Q : β → Prop}
    (first : ∃ a, x = .ok a ∧ P a) (then_ : ∀ a, P a → ∃ b, f a = .ok b ∧ Q b) :
    ∃ b, x >>= f = .ok b ∧ Q b := by
  obtain ⟨a, rfl, holds⟩ := first
  exact then_ a holds

theorem map_eq_ok {x : Except ε α} {f : α → β} {b : β} :
    x.map f = .ok b ↔ ∃ a, x = .ok a ∧ f a = b := by
  cases x with
  | ok a => simp [Except.map]
  | error e => simp [Except.map]

theorem map_eq_error {x : Except ε α} {f : α → β} {e : ε} : x.map f = .error e ↔ x = .error e := by
  cases x with
  | ok a => simp [Except.map]
  | error other => simp [Except.map]

theorem map_bind {γ : Type} (x : Except ε α) (f : α → Except ε β) (g : β → γ) :
    (x >>= f).map g = x >>= fun a => (f a).map g := by
  cases x <;> rfl

/-- A result can be had without comparing faults. -/
theorem eq_ok_of_toOption {x : Except ε α} {a : α} (found : x.toOption = some a) : x = .ok a := by
  cases x with
  | ok b => exact congrArg Except.ok (Option.some.inj found)
  | error e => cases found

/-- A list of computations succeeds where each of them does. -/
theorem mapM_eq_ok {f : α → Except ε β} {xs : List α} {ys : List β} :
    xs.mapM f = .ok ys ↔ List.Forall₂ (fun x y => f x = .ok y) xs ys := by
  induction xs generalizing ys with
  | nil => simp [eq_comm]
  | cons x rest ih =>
      rw [List.mapM_cons, bind_eq_ok, List.forall₂_cons_left_iff]
      constructor
      · rintro ⟨y, here, made⟩
        obtain ⟨tail, later, made⟩ := bind_eq_ok.mp made
        exact ⟨y, tail, here, ih.mp later, (Except.ok.inj made).symm⟩
      · rintro ⟨y, tail, here, later, rfl⟩
        exact ⟨y, here, bind_eq_ok.mpr ⟨tail, ih.mpr later, rfl⟩⟩

@[simp] theorem ofArithmetic_eq_ok {x : Except ArithmeticError α} {a : α} :
    ofArithmetic x = .ok a ↔ x = .ok a := by
  cases x <;> simp [ofArithmetic, Except.mapError]

@[simp] theorem ofArithmetic_ok (a : α) : ofArithmetic (.ok a : Except ArithmeticError α) = .ok a :=
  rfl

@[simp] theorem outcome_ite (c : Prop) [Decidable c] (x y : Logged α) :
    (if c then x else y).outcome = if c then x.outcome else y.outcome := by
  split <;> rfl

/-! ## Results -/

/-- A computation whose result, if it comes to one, has a property. -/
def Gives (P : α → Prop) (x : Except ε α) : Prop := ∀ a, x = .ok a → P a

namespace Gives

variable {P : α → Prop} {Q : β → Prop} {x : Except ε α}

theorem ok {a : α} (holds : P a) : Gives P (.ok a : Except ε α) := by
  rintro _ ⟨⟩
  exact holds

theorem error (e : ε) : Gives P (.error e : Except ε α) := nofun

theorem bind {f : α → Except ε β} (first : Gives P x) (then_ : ∀ a, P a → Gives Q (f a)) :
    Gives Q (x >>= f) := by
  intro b came
  obtain ⟨a, here, later⟩ := bind_eq_ok.mp came
  exact then_ a (first a here) b later

/-- A property that every step of a walk along a list keeps. -/
theorem foldlM {f : β → α → Except ε β} {xs : List α}
    (each : ∀ b, Q b → ∀ x ∈ xs, Gives Q (f b x)) {b : β} (start : Q b) :
    Gives Q (xs.foldlM f b) := by
  induction xs generalizing b with
  | nil => exact ok start
  | cons x rest ih =>
      rw [List.foldlM_cons]
      refine bind (each b start x List.mem_cons_self) fun next kept => ?_
      exact ih (fun b kept y member => each b kept y (List.mem_cons_of_mem x member)) kept

end Gives

/-! ## Faults -/

/-- A computation that fails with faults of one sort only. -/
def Only (P : Fault → Prop) (x : Outcome α) : Prop := ∀ fault, x = .error fault → P fault

namespace Only

variable {P : Fault → Prop} {x : Outcome α}

theorem ok (a : α) : Only P (.ok a : Outcome α) := nofun

theorem error {fault : Fault} (holds : P fault) : Only P (.error fault : Outcome α) := by
  rintro _ ⟨⟩
  exact holds

theorem bind {f : α → Outcome β} (first : Only P x) (then_ : ∀ a, Only P (f a)) :
    Only P (x >>= f) := by
  intro fault failed
  cases x with
  | ok a => exact then_ a fault failed
  | error other =>
      obtain rfl := Except.error.inj failed
      exact first other rfl

theorem map (first : Only P x) (f : α → β) : Only P (x.map f) := by
  intro fault failed
  cases x with
  | ok a => cases failed
  | error other =>
      obtain rfl := Except.error.inj failed
      exact first other rfl

theorem ite {c : Prop} [Decidable c] {x y : Outcome α} (yes : Only P x) (no : Only P y) :
    Only P (if c then x else y) := by
  split
  · exact yes
  · exact no

/-- A check before the rest of a computation. -/
theorem guard {c : Prop} [Decidable c] {refusal : Outcome Unit} {rest : Unit → Outcome β}
    (refused : Only P refusal) (goes : Only P (rest ())) :
    Only P (if c then refusal >>= rest else rest ()) :=
  ite (bind refused fun _ => goes) goes

theorem mapM {f : α → Outcome β} (each : ∀ x, Only P (f x)) (xs : List α) :
    Only P (xs.mapM f) := by
  induction xs with
  | nil => exact ok []
  | cons x rest ih =>
      rw [List.mapM_cons]
      exact bind (each x) fun y => bind ih fun ys => ok (y :: ys)

/-- A check of every member of a list. -/
theorem forEach {f : α → Outcome Unit} (each : ∀ x, Only P (f x)) (xs : List α) :
    Only P (forIn (m := Outcome) xs PUnit.unit fun x _ => do
      f x
      return ForInStep.yield PUnit.unit) := by
  induction xs with
  | nil => exact ok _
  | cons x rest ih =>
      rw [List.forIn_cons]
      have here := each x
      cases checked : f x with
      | ok done => exact ih
      | error fault => exact error (here fault checked)

end Only

/-! ## Room -/

/-- A computation that comes to a result, unless there is no room for it.  Where `short`
holds there is. -/
def RoomAllows (short : Prop) (x : Outcome α) : Prop :=
  (∃ a, x = .ok a) ∨ x = .error .outOfRoom ∧ ¬short

namespace RoomAllows

variable {short shorter : Prop} {x : Outcome α}

theorem ok (a : α) : RoomAllows short (.ok a) := .inl ⟨a, rfl⟩

theorem found (allows : RoomAllows short x) (holds : short) : ∃ a, x = .ok a :=
  allows.resolve_right fun full => full.2 holds

theorem mono (allows : RoomAllows short x) (le : shorter → short) : RoomAllows shorter x :=
  allows.imp_right (.imp_right fun long holds => long (le holds))

theorem bind {f : α → Outcome β} (first : RoomAllows short x)
    (then_ : ∀ a, x = .ok a → RoomAllows short (f a)) : RoomAllows short (x >>= f) := by
  obtain ⟨a, here⟩ | ⟨full, long⟩ := first
  · rw [here]
    exact then_ a here
  · exact .inr ⟨by rw [full]; rfl, long⟩

theorem map (allows : RoomAllows short x) (f : α → β) : RoomAllows short (x.map f) :=
  allows.imp (fun ⟨a, came⟩ => ⟨f a, by rw [came]; rfl⟩) fun ⟨full, long⟩ => ⟨by rw [full]; rfl, long⟩

end RoomAllows

end Darkroom.Outcome

namespace Darkroom.Logged

variable {α β : Type}

@[simp] theorem lift_ok_bind (a : α) (f : α → Logged β) :
    (liftM (Except.ok a : Outcome α) : Logged α) >>= f = f a := rfl

end Darkroom.Logged
