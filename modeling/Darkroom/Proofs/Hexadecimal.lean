/-
# Darkroom.Proofs.Hexadecimal -- numbers and their hexadecimal digits

A number is read from its digits and digits are written of a number; the two are
compared from the last digit on, since that one splits off on both sides
(`hexNumber?_concat_eq_some`, `hexDigits`).

* `hexNumber?_found_iff`: digits are read, of either case, and nothing else is;
* `hexNumber?_lt_iff`: a number has few digits when those in front of them are zeros;
* `hexDigits_of_hexNumber?`: what is written of a number that was read are the last
  digits it was read from, in small letters;
* `hexNumber?_hexDigits`: what was written is read again.
-/
import Darkroom.Color.Rgb
import Mathlib.Data.List.DropRight
import Mathlib.Tactic.IntervalCases
import Mathlib.Tactic.Ring

namespace Darkroom.Text

set_option autoImplicit false

/-! ## Digits -/

/-- The digits that numbers are written with. -/
def smallAlphabet : List Char :=
  ['0', '1', '2', '3', '4', '5', '6', '7', '8', '9', 'a', 'b', 'c', 'd', 'e', 'f']

/-- The digits that numbers are read from. -/
def hexAlphabet : List Char := smallAlphabet ++ ['A', 'B', 'C', 'D', 'E', 'F']

/-- A digit stands for what the same digit in small letters is written for. -/
theorem hexDigit?_of_mem {c : Char} (member : c ∈ hexAlphabet) :
    ∃ d, hexDigit? c = some d ∧ d < 16 ∧ Nat.digitChar d = c.toLower := by
  have each : (hexAlphabet.all fun c => (hexDigit? c).any fun d =>
      decide (d < 16 ∧ Nat.digitChar d = c.toLower)) = true := by decide
  simpa [Option.any_eq_true] using List.all_eq_true.mp each c member

theorem toLower_small {c : Char} (member : c ∈ smallAlphabet) : c.toLower = c := by
  have each : (smallAlphabet.all fun c => decide (c.toLower = c)) = true := by decide
  exact of_decide_eq_true (List.all_eq_true.mp each c member)

/-- Nothing else is a digit. -/
theorem mem_of_hexDigit? {c : Char} {d : Nat} (read : hexDigit? c = some d) : c ∈ hexAlphabet := by
  rw [← Char.ofNat_toNat c]
  unfold hexDigit? at read
  split_ifs at read with digit small large
  · have above : 48 ≤ c.toNat := digit.1
    have below : c.toNat ≤ 57 := digit.2
    interval_cases c.toNat <;> decide
  · have above : 97 ≤ c.toNat := small.1
    have below : c.toNat ≤ 102 := small.2
    interval_cases c.toNat <;> decide
  · have above : 65 ≤ c.toNat := large.1
    have below : c.toNat ≤ 70 := large.2
    interval_cases c.toNat <;> decide

/-- A digit is less than sixteen, and is written by its own character in small letters. -/
theorem digitChar_of_hexDigit? {c : Char} {d : Nat} (read : hexDigit? c = some d) :
    d < 16 ∧ Nat.digitChar d = c.toLower := by
  obtain ⟨d', read', written⟩ := hexDigit?_of_mem (mem_of_hexDigit? read)
  obtain rfl := Option.some.inj (read'.symm.trans read)
  exact written

theorem hexDigit?_zero_iff {c : Char} : hexDigit? c = some 0 ↔ c = '0' := by
  constructor
  · intro read
    have each : (hexAlphabet.all fun c => decide (hexDigit? c = some 0 → c = '0')) = true := by
      decide
    exact of_decide_eq_true (List.all_eq_true.mp each c (mem_of_hexDigit? read)) read
  · rintro rfl
    rfl

theorem hexDigit?_digitChar : ∀ d < 16, hexDigit? (Nat.digitChar d) = some d := by decide

/-! ## Numbers -/

theorem hexNumber?_concat (cs : List Char) (c : Char) :
    hexNumber? (cs ++ [c]) =
      (hexNumber? cs).bind fun n => (hexDigit? c).map (16 * n + ·) := by
  simp only [hexNumber?, List.foldlM_append, List.foldlM_cons, List.foldlM_nil]
  cases cs.foldlM (fun n c => (hexDigit? c).map (16 * n + ·)) 0 with
  | none => rfl
  | some n => cases hexDigit? c <;> rfl

/-- The last digit of a number tells its rest. -/
theorem hexNumber?_concat_eq_some {cs : List Char} {c : Char} {n : Nat} :
    hexNumber? (cs ++ [c]) = some n ↔
      hexNumber? cs = some (n / 16) ∧ hexDigit? c = some (n % 16) := by
  rw [hexNumber?_concat]
  constructor
  · intro read
    obtain ⟨m, readRest, read⟩ := Option.bind_eq_some_iff.mp read
    obtain ⟨d, readDigit, rfl⟩ := Option.map_eq_some_iff.mp read
    have small := (digitChar_of_hexDigit? readDigit).1
    rw [show (16 * m + d) / 16 = m by omega, show (16 * m + d) % 16 = d by omega]
    exact ⟨readRest, readDigit⟩
  · rintro ⟨readRest, readDigit⟩
    rw [readRest, readDigit]
    simp only [Option.bind_some, Option.map_some, Nat.div_add_mod]

/-- Digits write a number, and nothing else does. -/
theorem hexNumber?_found_iff {cs : List Char} :
    (∃ n, hexNumber? cs = some n) ↔ ∀ c ∈ cs, c ∈ hexAlphabet := by
  induction cs using List.reverseRecOn with
  | nil => simp [hexNumber?]
  | append_singleton cs c ih =>
    rw [List.forall_mem_append, List.forall_mem_singleton, ← ih]
    constructor
    · rintro ⟨n, read⟩
      obtain ⟨readRest, readDigit⟩ := hexNumber?_concat_eq_some.mp read
      exact ⟨⟨_, readRest⟩, mem_of_hexDigit? readDigit⟩
    · rintro ⟨⟨m, readRest⟩, member⟩
      obtain ⟨d, readDigit, -⟩ := hexDigit?_of_mem member
      refine ⟨16 * m + d, ?_⟩
      rw [hexNumber?_concat, readRest, readDigit]
      rfl

/-- A number has at most `k` digits when all digits before the last `k` are zeros. -/
theorem hexNumber?_lt_iff {k n : Nat} {cs : List Char} (read : hexNumber? cs = some n) :
    n < 16 ^ k ↔ ∀ c ∈ cs.rdrop k, c = '0' := by
  induction cs using List.reverseRecOn generalizing k n with
  | nil =>
    obtain rfl : 0 = n := Option.some.inj read
    simp
  | append_singleton cs c ih =>
    obtain ⟨readRest, readDigit⟩ := hexNumber?_concat_eq_some.mp read
    cases k with
    | zero =>
      -- The rest has to be zero as well, which is the statement about it with the same bound.
      have rest := ih readRest (k := 0)
      rw [pow_zero, Nat.lt_one_iff, List.rdrop_zero] at rest ⊢
      have last : c = '0' ↔ n % 16 = 0 := by
        rw [← hexDigit?_zero_iff, readDigit, Option.some.injEq]
      simp only [List.forall_mem_append, List.forall_mem_singleton, ← rest, last]
      omega
    | succ k =>
      rw [List.rdrop_concat_succ, ← ih readRest, Nat.div_lt_iff_lt_mul (by decide), pow_succ]

theorem leftpad_concat {α : Type} (width : Nat) (a : α) (xs : List α) (x : α) :
    List.leftpad (width + 1) a (xs ++ [x]) = List.leftpad width a xs ++ [x] := by
  simp [List.leftpad]

/-- The last digits of a number are the last ones that it was read from, in small
letters, with zeros in front where there were fewer. -/
theorem hexDigits_of_hexNumber? {n : Nat} {cs : List Char} (read : hexNumber? cs = some n)
    (width : Nat) :
    hexDigits width n = List.leftpad width '0' ((cs.rtake width).map Char.toLower) := by
  induction width generalizing n cs with
  | zero => simp [hexDigits, List.leftpad]
  | succ width ih =>
    obtain rfl | ⟨cs, c, rfl⟩ := cs.eq_nil_or_concat
    · obtain rfl : 0 = n := Option.some.inj read
      have none_ : hexDigits width 0 = List.leftpad width '0' [] := by
        simpa using ih (show hexNumber? [] = some 0 from rfl)
      rw [hexDigits, Nat.zero_div, none_]
      simp [List.leftpad, List.replicate_succ']
    · rw [List.concat_eq_append] at read ⊢
      obtain ⟨readRest, readDigit⟩ := hexNumber?_concat_eq_some.mp read
      rw [hexDigits, ih readRest, (digitChar_of_hexDigit? readDigit).2, List.rtake_concat_succ,
        List.map_append, List.map_singleton, leftpad_concat]

/-- What is written of a number is read as what its last digits make. -/
theorem hexNumber?_hexDigits (width n : Nat) :
    hexNumber? (hexDigits width n) = some (n % 16 ^ width) := by
  induction width generalizing n with
  | zero => simp [hexDigits, hexNumber?, Nat.mod_one]
  | succ width ih =>
    have small : n % 16 < 16 := Nat.mod_lt n (by decide)
    rw [hexDigits, hexNumber?_concat_eq_some, ih, hexDigit?_digitChar _ small,
      pow_succ', Nat.mod_mul,
      Nat.add_mul_div_left _ _ (by decide), Nat.add_mul_mod_self_left, Nat.div_eq_of_lt small,
      Nat.mod_eq_of_lt small]
    simp

/-- Digits side by side are the digits of one number. -/
theorem hexDigits_append (width more n m : Nat) (small : m < 16 ^ more) :
    hexDigits width n ++ hexDigits more m = hexDigits (width + more) (16 ^ more * n + m) := by
  induction more generalizing m with
  | zero =>
    obtain rfl : m = 0 := by simpa using small
    simp [hexDigits]
  | succ more ih =>
    have fewer : m / 16 < 16 ^ more := Nat.div_lt_of_lt_mul (by rwa [pow_succ'] at small)
    have high : (16 ^ (more + 1) * n + m) / 16 = 16 ^ more * n + m / 16 := by
      rw [pow_succ', mul_assoc, Nat.mul_add_div (by decide)]
    have low : (16 ^ (more + 1) * n + m) % 16 = m % 16 := by
      rw [pow_succ', mul_assoc, Nat.mul_add_mod]
    rw [hexDigits, ← List.append_assoc, ih _ fewer, ← Nat.add_assoc, hexDigits, high, low]

theorem length_hexDigits (width n : Nat) : (hexDigits width n).length = width := by
  induction width generalizing n with
  | zero => rfl
  | succ width ih => rw [hexDigits, List.length_append, ih, List.length_singleton]

theorem mem_hexDigits {width n : Nat} {c : Char} (member : c ∈ hexDigits width n) :
    c ∈ smallAlphabet := by
  have each : ∀ d < 16, Nat.digitChar d ∈ smallAlphabet := by decide
  induction width generalizing n with
  | zero => cases member
  | succ width ih =>
    rcases List.mem_append.mp member with before | last
    · exact ih before
    · obtain rfl := List.mem_singleton.mp last
      exact each _ (Nat.mod_lt n (by decide))

end Darkroom.Text
