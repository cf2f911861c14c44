/-
# Darkroom.Proofs.Tokens -- how arguments are told apart

Where flags look like flags and are all different (`Grammar.Regular`), a flag is told from
its value whether that follows an equals sign (`token_equals`), or the letter itself
(`token_letter`), and an argument that is not taken for a flag is a plain one (`IsPlain`).

In front of a command every argument is told apart somehow and keeps its text
(`tokens_main`, `tokens_texts`), but for one that may be short for any long flag
(`IsBlankFlag`): no two long flags of the program begin with the same letter.
-/
import Darkroom.Command
import Darkroom.Proofs.Parsing
import Mathlib.Data.List.Nodup

namespace Darkroom.Command

set_option autoImplicit false

open Outcome

/-- An argument that is not taken for a flag: it has no minus sign in front, or is no more
than that. -/
def IsPlain (text : String) : Prop := text.toList.head? ≠ some '-' ∨ text = standardStream

theorem IsPlain.ne_doubleDash {text : String} (plain : IsPlain text) : text ≠ doubleDash := by
  rintro rfl
  obtain undashed | same := plain
  · exact undashed rfl
  · exact absurd same (by decide)

/-- A letter behind one dash, or more behind two, and no equals sign. -/
def isFlagShaped : List Char → Bool
  | ['-', c] => c ≠ '-' && c ≠ '='
  | '-' :: '-' :: rest => rest ≠ [] && !rest.contains '='
  | _ => false

/-- The flags of a grammar look like flags, no two are the same, and no names are rivals. -/
structure Grammar.Regular (g : Grammar) : Prop where
  shaped : ∀ f ∈ g.flags, isFlagShaped f.1.toList = true
  distinct : (g.flags.map (·.1)).Nodup
  peaceful : g.rivals = []

theorem operation_regular (o : Operation) : (operationGrammar o).Regular where
  shaped := by cases o <;> decide +kernel
  distinct := by cases o <;> decide +kernel
  peaceful := rfl

variable {g : Grammar} {flag : String} {s : Switch}

namespace Grammar

theorem Regular.shapes (regular : g.Regular) {f : String × Switch} (listed : f ∈ g.flags) :
    (∃ c, f.1.toList = ['-', c] ∧ c ≠ '-' ∧ c ≠ '=') ∨
      ∃ rest, f.1.toList = '-' :: '-' :: rest ∧ rest ≠ [] ∧ '=' ∉ rest := by
  have shaped := regular.shaped f listed
  unfold isFlagShaped at shaped
  split at shaped
  case h_1 c same => exact .inl ⟨c, same, by simpa using shaped⟩
  case h_2 rest _ same => exact .inr ⟨rest, same, by simpa using shaped⟩
  case h_3 => cases shaped

theorem mem_flags_of_switch? (known : g.switch? flag = some s) : (flag, s) ∈ g.flags := by
  obtain ⟨f, first, rfl⟩ := Option.map_eq_some_iff.mp known
  obtain rfl : f.1 = flag := by simpa using List.find?_some first
  exact List.mem_of_find?_eq_some first

theorem switch?_eq_none (strange : ∀ f ∈ g.flags, f.1 ≠ flag) : g.switch? flag = none := by
  rw [switch?, Option.map_eq_none_iff, List.find?_eq_none]
  simpa using strange

/-- Exactly one of the flags is this one. -/
theorem Regular.lone (regular : g.Regular) (known : g.switch? flag = some s) {β : Type}
    (made : String × Switch → β) :
    g.flags.filterMap (fun f => if f.1 == flag then some (made f) else none) = [made (flag, s)] := by
  have listed := mem_flags_of_switch? known
  have distinct := regular.distinct
  revert listed distinct
  generalize g.flags = flags
  intro listed distinct
  induction flags with
  | nil => cases listed
  | cons f rest ih =>
      obtain ⟨first, distinct⟩ := List.nodup_cons.mp distinct
      rcases List.mem_cons.mp listed with rfl | later
      · rw [List.filterMap_cons_some (b := made (flag, s)) (by simp), List.cons_inj_right,
          List.filterMap_eq_nil_iff]
        intro f listed
        have other : f.1 ≠ flag := fun same => first (List.mem_map.mpr ⟨f, listed, same⟩)
        simpa using other
      · have other : f.1 ≠ flag := fun same => first (List.mem_map.mpr ⟨_, later, same.symm⟩)
        rw [List.filterMap_cons_none (by simpa using other)]
        exact ih later distinct

/-- A flag begins with a dash and holds no equals sign. -/
theorem Regular.dashed (regular : g.Regular) {f : String × Switch} (listed : f ∈ g.flags) :
    (∃ tail, f.1.toList = '-' :: tail ∧ tail ≠ []) ∧ '=' ∉ f.1.toList ∧ f.1 ≠ doubleDash := by
  obtain ⟨c, same, other, bare⟩ | ⟨rest, same, some_, bare⟩ := regular.shapes listed
  · refine ⟨⟨[c], same, by simp⟩, by simpa [same] using Ne.symm bare, fun dash => ?_⟩
    rw [dash] at same
    cases same
    exact other rfl
  · refine ⟨⟨'-' :: rest, same, by simp⟩, by simpa [same] using bare, fun dash => ?_⟩
    rw [dash] at same
    cases same
    exact some_ rfl

theorem token_flag (regular : g.Regular) (known : g.switch? flag = some s) :
    g.token flag = .ok (.flag flag (some ⟨s, flag, none⟩)) := by
  obtain ⟨⟨tail, same, -⟩, -, -⟩ := regular.dashed (mem_flags_of_switch? known)
  unfold token
  simp only [same, known]

theorem cutAtEquals_append {name value : List Char} (bare : '=' ∉ name) :
    cutAtEquals (name ++ '=' :: value) = some (String.ofList name, ⟨value, true⟩) := by
  have all : ∀ c ∈ name, decide (c ≠ '=') = true := fun c listed =>
    decide_eq_true fun same => bare (same ▸ listed)
  unfold cutAtEquals
  rw [List.dropWhile_append_of_pos all, List.takeWhile_append_of_pos all]
  simp

theorem token_equals (regular : g.Regular) (known : g.switch? flag = some s) (given : String) :
    g.token (flag ++ "=" ++ given) =
      .ok (.flag (flag ++ "=" ++ given) (some ⟨s, flag, some ⟨given.toList, true⟩⟩)) := by
  obtain ⟨⟨tail, same, -⟩, bare, -⟩ := regular.dashed (mem_flags_of_switch? known)
  have whole : (flag ++ "=" ++ given).toList = flag.toList ++ '=' :: given.toList := by simp
  have strange : g.switch? (flag ++ "=" ++ given) = none := by
    refine switch?_eq_none fun f listed same => ?_
    refine (regular.dashed listed).2.1 ?_
    simp [same]
  have cut : cutAtEquals ('-' :: (tail ++ '=' :: given.toList)) =
      some (flag, ⟨given.toList, true⟩) := by
    rw [← List.cons_append, ← same, cutAtEquals_append bare, String.ofList_toList]
  unfold token
  rw [whole, same]
  simp only [List.cons_append, strange, cut, Option.bind_some, known, Option.map_some]
  rw [if_neg (by simp)]

/-- No flag goes on behind a letter. -/
theorem Regular.strange_of_letter (regular : g.Regular) {letter : Char} (other : letter ≠ '-')
    (c : Char) (rest : List Char) {f : String × Switch} (listed : f ∈ g.flags) :
    ¬('-' :: letter :: c :: rest <+: f.1.toList) := by
  obtain ⟨c, same, -, -⟩ | ⟨rest, same, -, -⟩ := regular.shapes listed
  · simp [same]
  · simp [same, other]

section

variable {letter c : Char} {rest : List Char}

theorem Regular.letter_bare (regular : g.Regular)
    (known : g.switch? (String.ofList ['-', letter]) = some s) : letter ≠ '-' ∧ letter ≠ '=' := by
  obtain ⟨c, same, other, plain⟩ | ⟨rest, same, some_, -⟩ :=
    regular.shapes (mem_flags_of_switch? known)
  · simp at same
    exact same ▸ ⟨other, plain⟩
  · simp at same
    exact absurd same.2 some_

/-- An equals sign further on cuts off no flag. -/
theorem Regular.uncut_letter (regular : g.Regular) (other : letter ≠ '-') (plain : letter ≠ '=')
    (bare : c ≠ '=') : ((cutAtEquals ('-' :: letter :: c :: rest)).bind fun (flag, value) =>
      (g.switch? flag).map fun s => (⟨s, flag, some value⟩ : Hit)) = none := by
  unfold cutAtEquals
  split
  · rw [Option.bind_some]
    dsimp only
    rw [Option.map_eq_none_iff]
    refine switch?_eq_none fun f listed same => ?_
    refine regular.strange_of_letter other c (rest.takeWhile (· ≠ '=')) listed ?_
    rw [same]
    simp [plain, bare]
  · rfl

/-- A letter with its value behind it is short for nothing else. -/
theorem Regular.candidates_letter (regular : g.Regular)
    (known : g.switch? (String.ofList ['-', letter]) = some s) {text : String}
    (whole : text.toList = '-' :: letter :: c :: rest) :
    g.candidates text = [⟨s, String.ofList ['-', letter], some ⟨c :: rest, false⟩⟩] := by
  obtain ⟨other, -⟩ := regular.letter_bare known
  unfold candidates
  rw [whole]
  split
  case h_1 same => simp [other] at same
  case h_2 l r same =>
    simp at same
    obtain ⟨rfl, rfl⟩ := same
    rw [← regular.lone known fun f => (⟨f.2, f.1, some ⟨c :: rest, false⟩⟩ : Hit)]
    refine List.filterMap_congr fun f listed => ?_
    have unbegun : isBeginning text f.1 = false := by
      rw [isBeginning, whole, Bool.eq_false_iff]
      exact fun begins =>
        regular.strange_of_letter other _ _ listed (List.isPrefixOf_iff_prefix.mp begins)
    rw [unbegun, if_neg (c := false = true) (by simp)]
  case h_3 h => exact absurd rfl (h _ _)

end

theorem token_letter (regular : g.Regular) {letter : Char} {given : String}
    (known : g.switch? (String.ofList ['-', letter]) = some s) (some_ : given ≠ "")
    (bare : given.toList.head? ≠ some '=') :
    g.token (String.ofList ['-', letter] ++ given) =
      .ok (.flag (String.ofList ['-', letter] ++ given)
        (some ⟨s, String.ofList ['-', letter], some ⟨given.toList, false⟩⟩)) := by
  obtain ⟨other, plain⟩ := regular.letter_bare known
  obtain ⟨c, rest, value⟩ : ∃ c rest, given.toList = c :: rest :=
    List.exists_cons_of_ne_nil (by simpa using some_)
  have whole : (String.ofList ['-', letter] ++ given).toList = '-' :: letter :: c :: rest := by
    simp [value]
  have bare_ : c ≠ '=' := by simpa [value] using bare
  have strange : g.switch? (String.ofList ['-', letter] ++ given) = none := by
    refine switch?_eq_none fun f listed same => ?_
    refine regular.strange_of_letter other c rest listed ?_
    exact (same ▸ whole).symm ▸ List.prefix_rfl
  unfold token
  rw [whole]
  simp only [strange]
  rw [if_neg (by simp), regular.uncut_letter other plain bare_, regular.candidates_letter known whole,
    ← value]

/-- An argument without a minus sign in front is a plain one. -/
theorem token_plain (g : Grammar) {text : String} (plain : text.toList.head? ≠ some '-') :
    g.token text = .ok (.plain text) := by
  unfold token
  split
  case h_1 tail same => simp [same] at plain
  case h_2 => rfl

theorem Regular.token_plain (regular : g.Regular) {text : String} (plain : IsPlain text) :
    g.token text = .ok (.plain text) := by
  obtain undashed | rfl := plain
  · exact g.token_plain undashed
  · have strange : g.switch? standardStream = none := by
      refine switch?_eq_none fun f listed same => ?_
      obtain ⟨⟨tail, dashed, some_⟩, -⟩ := regular.dashed listed
      rw [same] at dashed
      exact some_ (List.cons.inj dashed).2.symm
    unfold token
    rw [show standardStream.toList = ['-'] from rfl]
    simp only [strange, if_true]

/-- Every token keeps the text of its argument. -/
theorem token_text (argument : String) : Gives (·.text = argument) (g.token argument) := by
  unfold token
  split
  case h_2 => exact .ok rfl
  case h_1 tail _ =>
    split
    · exact .ok rfl
    · split
      · exact .ok rfl
      · dsimp only
        split
        · exact .ok rfl
        · split
          · exact .ok rfl
          · split
            · exact .ok rfl
            · exact .ok rfl
          · exact .error _

theorem tokens_texts (arguments : List String) :
    Gives (·.map Token.text = arguments) (g.tokens arguments) := by
  induction arguments with
  | nil => exact .ok rfl
  | cons argument rest ih =>
      unfold tokens
      split
      case h_1 same => cases same
      case h_2 later same =>
        cases same
        exact .ok (by simp [Token.text, doubleDash, Function.comp_def])
      case h_3 first later _ same =>
        cases same
        exact .bind (token_text argument) fun t text => .bind ih fun ts texts => .ok (by simp [text, texts])

theorem tokens_cons {argument : String} (other : argument ≠ doubleDash) (rest : List String) :
    g.tokens (argument :: rest) = (do return (← g.token argument) :: (← g.tokens rest)) := by
  rw [tokens]
  exact other

end Grammar

/-! ## In front of a command -/

/-- Two dashes and an equals sign, which may be short for any long flag. -/
def IsBlankFlag (text : String) : Prop := ['-', '-', '='] <+: text.toList

theorem IsPlain.named {text : String} (plain : IsPlain text) : ¬IsBlankFlag text := by
  rintro ⟨tail, same⟩
  obtain undashed | rfl := plain
  · simp [← same] at undashed
  · cases same

/-- How many flags have a letter in a place. -/
theorem countP_place (flags : List (String × Switch)) (place : ℕ) (c : Char) :
    flags.countP (fun f => f.1.toList[place]? == some c) =
      (flags.filterMap fun f => f.1.toList[place]?).count c := by
  rw [List.count, List.countP_filterMap]
  congr 1
  funext f
  cases f.1.toList[place]? <;> rfl

/-- No two long flags of the program begin with the same letter. -/
theorem main_long {short : String} {c : Char} (begins : ['-', '-', c] <+: short.toList) :
    (mainGrammar.flags.filter fun f => isBeginning short f.1).length ≤ 1 := by
  have longs : (mainGrammar.flags.filterMap fun f => f.1.toList[2]?).Nodup := by decide +kernel
  rw [← List.countP_eq_length_filter]
  calc mainGrammar.flags.countP (fun f => isBeginning short f.1)
      ≤ mainGrammar.flags.countP (fun f => f.1.toList[2]? == some c) := by
        refine List.countP_mono_left fun f _ begun => ?_
        obtain ⟨tail, same⟩ := begins.trans (List.isPrefixOf_iff_prefix.mp begun)
        simp [← same]
    _ = (mainGrammar.flags.filterMap fun f => f.1.toList[2]?).count c := countP_place _ 2 c
    _ ≤ 1 := List.nodup_iff_count_le_one.mp longs c

/-- No argument but a blank flag may be short for two flags of the program. -/
theorem candidates_main {text : String} (other : text ≠ doubleDash) (named : ¬IsBlankFlag text) :
    (mainGrammar.candidates text).length ≤ 1 := by
  unfold Grammar.candidates
  split
  case h_1 rest same =>
    obtain ⟨c, more, rfl⟩ : ∃ c more, rest = c :: more := by
      refine List.exists_cons_of_ne_nil fun none_ => other ?_
      rw [none_] at same
      exact String.toList_injective same
    have bare : c ≠ '=' := by
      rintro rfl
      exact named (by simp [IsBlankFlag, same])
    dsimp only
    rw [List.length_map]
    cases cut : cutAtEquals ('-' :: '-' :: c :: more) with
    | none =>
        rw [same, cut]
        exact main_long ⟨more, same.symm⟩
    | some found =>
        rw [same, cut]
        refine main_long (c := c) ?_
        unfold cutAtEquals at cut
        split at cut
        · obtain rfl := Option.some.inj cut
          simp [bare]
        · cases cut
  case h_2 letter rest dashed same =>
    have letters : ((mainGrammar.flags.filterMap fun f => f.1.toList[1]?).filter (· ≠ '-')).Nodup := by
      decide +kernel
    rw [List.length_filterMap_eq_countP]
    calc mainGrammar.flags.countP _
        ≤ mainGrammar.flags.countP (fun f => f.1.toList[1]? == some letter) := by
          refine List.countP_mono_left fun f _ hit => ?_
          split_ifs at hit with short begun
          · simp [beq_iff_eq.mp short]
          · obtain ⟨tail, whole⟩ := List.isPrefixOf_iff_prefix.mp begun
            simp [← whole, same]
          · cases hit
      _ = (mainGrammar.flags.filterMap fun f => f.1.toList[1]?).count letter := countP_place _ 1 letter
      _ = ((mainGrammar.flags.filterMap fun f => f.1.toList[1]?).filter (· ≠ '-')).count letter :=
          (List.count_filter (by simpa using dashed)).symm
      _ ≤ 1 := List.nodup_iff_count_le_one.mp letters letter
  case h_3 => exact Nat.zero_le _

/-- An argument that is no blank flag is read somehow. -/
theorem token_main {text : String} (other : text ≠ doubleDash) (named : ¬IsBlankFlag text) :
    ∃ t, mainGrammar.token text = .ok t := by
  have few := candidates_main other named
  unfold Grammar.token
  split
  case h_2 => exact ⟨_, rfl⟩
  case h_1 =>
    split
    · exact ⟨_, rfl⟩
    · split
      · exact ⟨_, rfl⟩
      · dsimp only
        split
        · exact ⟨_, rfl⟩
        · split
          · exact ⟨_, rfl⟩
          · split <;> exact ⟨_, rfl⟩
          case h_3 hits one none_ =>
            match found : mainGrammar.candidates text with
            | [] => exact absurd found none_
            | [hit] => exact absurd found (one hit)
            | _ :: _ :: _ =>
                rw [found] at few
                simp at few

theorem tokens_main {arguments : List String} (named : ∀ text ∈ arguments, ¬IsBlankFlag text) :
    ∃ ts, mainGrammar.tokens arguments = .ok ts := by
  induction arguments with
  | nil => exact ⟨_, rfl⟩
  | cons argument rest ih =>
      obtain ⟨here, later⟩ := List.forall_mem_cons.mp named
      unfold Grammar.tokens
      split
      case h_1 => contradiction
      case h_2 => exact ⟨_, rfl⟩
      case h_3 first later_ other same =>
        cases same
        obtain ⟨t, read⟩ := token_main other here
        obtain ⟨ts, reads⟩ := ih later
        rw [read, ok_bind, reads]
        exact ⟨_, rfl⟩

end Darkroom.Command
