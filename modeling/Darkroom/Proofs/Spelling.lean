/-
# Darkroom.Proofs.Spelling -- command lines that are spelled out

A `Word` says one thing under a flag: a value behind an equals sign, right behind a letter
or in the next argument, or a switch that is turned on.  Each word is read in one round as
what it says (`Spells.told`), and two plain arguments fill two places in one
(`walk_pair`).  So words before and behind them are read as what they say, the last one of
each name (`Regular.parse`).

In front of a command all that follows its name is handed over (`parse_command`).  A line
that is spelled out thus asks for its operation with just what its words say
(`Spelled.asks`).  Each word sets what its flag is named for (`Word.flagged`), and every
value of an operation has its word (`sayable`).
-/
import Darkroom.Proofs.Settings
import Darkroom.Proofs.Tokens

namespace Darkroom.Command

set_option autoImplicit false

open Outcome

variable {g : Grammar} {s : Switch}

/-- The text is read as a value. -/
inductive Reading.Reads : Reading → String → Setting → Prop
  | text (given : String) : Reading.text.Reads given (.text given)
  | whole {given : String} {n : Int} (read : Text.whole? given = some n) :
      Reading.whole.Reads given (.whole n)

/-- Arguments that say one thing under a flag: a value behind an equals sign, right behind
a letter or in the next argument, or a switch that is turned on. -/
inductive Grammar.Spells (g : Grammar) : List String → String → Setting → Prop
  | equals {flag given : String} {s : Switch} {r : Reading} {setting : Setting}
      (known : g.switch? flag = some s) (stores : s.effect = .store r)
      (reads : r.Reads given setting) (valued : given ≠ doubleDash) :
      g.Spells [flag ++ "=" ++ given] s.name setting
  | letter {letter : Char} {given : String} {s : Switch} {r : Reading} {setting : Setting}
      (known : g.switch? (String.ofList ['-', letter]) = some s) (stores : s.effect = .store r)
      (reads : r.Reads given setting) (valued : given ≠ doubleDash) (some_ : given ≠ "")
      (bare : given.toList.head? ≠ some '=') :
      g.Spells [String.ofList ['-', letter] ++ given] s.name setting
  | apart {flag given : String} {s : Switch} {r : Reading} {setting : Setting}
      (known : g.switch? flag = some s) (stores : s.effect = .store r)
      (reads : r.Reads given setting) (plain : IsPlain given) : g.Spells [flag, given] s.name setting
  | on {flag : String} {s : Switch} (known : g.switch? flag = some s)
      (turns : s.effect = .turnOn) : g.Spells [flag] s.name .on

/-! ## Rounds -/

/-- What is left of reading when one more thing is said. -/
def Progress.said (p : Progress) (name : String) (setting : Setting) : Progress :=
  ({ p with met := name :: p.met, given := name :: p.given }).set name setting

namespace Grammar

variable {p : Progress} {given name : String} {r : Reading} {setting : Setting}

theorem Regular.give (regular : g.Regular) :
    g.give name p = .ok { p with met := name :: p.met, given := name :: p.given } := by
  simp [Grammar.give, regular.peaceful]

theorem read_of_reads (reads : r.Reads given setting) (title : String) :
    g.read title r given = .ok setting := by
  cases reads with
  | text => rfl
  | whole read => simp only [Grammar.read, read]

theorem Regular.store (regular : g.Regular) (stores : s.effect = .store r)
    (reads : r.Reads given setting) (valued : given ≠ doubleDash) :
    g.carryOut p s (some given) = .ok (p.said s.name setting) := by
  simp only [carryOut, stores, Grammar.store, if_neg valued, read_of_reads reads, regular.give,
    ok_bind, pure_eq, Progress.said]

theorem Regular.turnOn (regular : g.Regular) (turns : s.effect = .turnOn) :
    g.carryOut p s none = .ok (p.said s.name .on) := by
  simp only [carryOut, turns, flip, regular.give, ok_bind, pure_eq, Progress.said]

/-- One flag that asks for one switch is carried out. -/
theorem walk_flag {hit : Hit} {value : Option String} {q : Progress} {text : String}
    {tokens rest : List Token}
    (asked : g.unfold hit.switch hit.flag hit.attached tokens = .ok ⟨[(hit.switch, value)], [], rest⟩)
    (carried : g.carryOut p hit.switch value = .ok q) (fuel : ℕ) :
    g.walk (fuel + 1) p (.flag text (some hit) :: tokens) = g.walk fuel q rest := by
  simp only [walk, takeFlag, asked, ok_bind, List.append_nil, List.foldlM_cons, List.foldlM_nil,
    carried, pure_eq]

/-- What is spelled out is read in one round. -/
theorem Spells.told (regular : g.Regular) {arguments : List String} {name : String}
    {setting : Setting} (spells : g.Spells arguments name setting) : ∃ text hit more,
    (∀ rest, g.tokens (arguments ++ rest) =
      (g.tokens rest).map ((.flag text (some hit) :: more) ++ ·)) ∧
    ∀ fuel p rest, g.walk (fuel + 1) p (.flag text (some hit) :: more ++ rest) =
      g.walk fuel (p.said name setting) rest := by
  have one {text : String} (other : text ≠ doubleDash) {token : Token}
      (read : g.token text = .ok token) (rest : List String) :
      g.tokens ([text] ++ rest) = (g.tokens rest).map (token :: ·) := by
    rw [List.singleton_append, tokens_cons other, read]
    cases g.tokens rest <;> rfl
  cases spells with
  | @equals flag given s r setting known stores reads valued =>
      have other : flag ++ "=" ++ given ≠ doubleDash := fun same => by
        have equals : '=' ∈ (flag ++ "=" ++ given).toList := by simp
        rw [same] at equals
        exact absurd equals (by decide)
      have asked (rest : List Token) : g.unfold s flag (some ⟨given.toList, true⟩) rest =
          .ok ⟨[(s, some given)], [], rest⟩ := by simp [unfold, stores]
      exact ⟨_, _, [], one other (token_equals regular known given), fun fuel p rest =>
        walk_flag (asked rest) (regular.store stores reads valued) fuel⟩
  | @letter letter given s r setting known stores reads valued some_ bare =>
      have other : String.ofList ['-', letter] ++ given ≠ doubleDash := fun same => by
        have long := congrArg String.toList same
        simp [doubleDash, some_] at long
      have asked (rest : List Token) : g.unfold s (String.ofList ['-', letter])
          (some ⟨given.toList, false⟩) rest = .ok ⟨[(s, some given)], [], rest⟩ := by
        simp [unfold, stores]
      exact ⟨_, _, [], one other (token_letter regular known some_ bare), fun fuel p rest =>
        walk_flag (asked rest) (regular.store stores reads valued) fuel⟩
  | @apart flag given s r setting known stores reads plain =>
      have other : flag ≠ doubleDash := (regular.dashed (mem_flags_of_switch? known)).2.2
      have asked (rest : List Token) : g.unfold s flag none (.plain given :: rest) =
          .ok ⟨[(s, some given)], [], rest⟩ := by simp [unfold, stores]
      refine ⟨flag, ⟨s, flag, none⟩, [.plain given], fun rest => ?_, fun fuel p rest => ?_⟩
      · rw [List.cons_append, ← List.singleton_append, one other (token_flag regular known),
          one plain.ne_doubleDash (regular.token_plain plain)]
        cases g.tokens rest <;> rfl
      · rw [List.cons_append, List.singleton_append]
        exact walk_flag (asked rest) (regular.store stores reads plain.ne_doubleDash) fuel
  | @on flag s known turns =>
      have other : flag ≠ doubleDash := (regular.dashed (mem_flags_of_switch? known)).2.2
      have asked (rest : List Token) : g.unfold s flag none rest = .ok ⟨[(s, none)], [], rest⟩ := by
        simp [unfold, turns]
      exact ⟨_, _, [], one other (token_flag regular known), fun fuel p rest =>
        walk_flag (asked rest) (regular.turnOn turns) fuel⟩

end Grammar

/-! ## Lines -/

/-- One thing that is spelled out. -/
structure Word (g : Grammar) where
  arguments : List String
  name : String
  setting : Setting
  spells : g.Spells arguments name setting

/-- What is left of reading when all this is said, from left to right. -/
def Progress.heard {g : Grammar} (p : Progress) (words : List (Word g)) : Progress :=
  words.foldl (fun p w => p.said w.name w.setting) p

/-- Tokens that do not begin with a plain argument or a divider. -/
def BeginsWithFlag (tokens : List Token) : Prop := ∀ t ∈ tokens.head?, t.isFlag = true

namespace Grammar

/-- Words are read in as many rounds. -/
theorem words_told (regular : g.Regular) (words : List (Word g)) : ∃ ts,
    (∀ rest, g.tokens (words.flatMap (·.arguments) ++ rest) = (g.tokens rest).map (ts ++ ·)) ∧
    (∀ fuel p rest, g.walk (words.length + fuel) p (ts ++ rest) = g.walk fuel (p.heard words) rest) ∧
    words.length ≤ ts.length ∧ BeginsWithFlag ts := by
  induction words with
  | nil =>
      refine ⟨[], fun rest => ?_, fun fuel p rest => ?_, Nat.le_refl _, by simp [BeginsWithFlag]⟩
      · simp only [List.flatMap_nil, List.nil_append]
        cases g.tokens rest <;> rfl
      · simp [Progress.heard]
  | cons w words ih =>
      obtain ⟨ts, tokens, rounds, long, -⟩ := ih
      obtain ⟨text, hit, more, first, round⟩ := w.spells.told regular
      refine ⟨.flag text (some hit) :: more ++ ts, fun rest => ?_, fun fuel p rest => ?_, ?_,
        by simp [BeginsWithFlag, Token.isFlag]⟩
      · rw [List.flatMap_cons, List.append_assoc, first, tokens]
        cases g.tokens rest <;> simp [Except.map]
      · rw [List.append_assoc, List.length_cons, Nat.add_right_comm, round, rounds]
        rfl
      · simp only [List.length_cons, List.length_append]
        omega

/-- The two files fill the two places. -/
theorem fillPlaces_pair (regular : g.Regular) {p : Progress} {first second : String}
    {source output : String} (places : p.places = [⟨first, .one⟩, ⟨second, .one⟩])
    (sourcePlain : source ≠ doubleDash) (outputPlain : output ≠ doubleDash) {rest : List Token}
    (flags : BeginsWithFlag rest) :
    g.fillPlaces p (.plain source :: .plain output :: rest) =
      .ok ({ (p.said first (.text source)).said second (.text output) with places := [] }, rest) := by
  have undivided (isDivider : Token → Bool) (other : ∀ text hit, isDivider (.flag text hit) = false) :
      rest.takeWhile isDivider = [] := by
    cases rest with
    | nil => rfl
    | cons t rest =>
        have flag : t.isFlag = true := flags t rfl
        cases t with
        | flag text hit => exact List.takeWhile_cons_of_neg (by simp [other])
        | plain | divider => cases flag
  have filled : fillMost p.places (.plain source :: .plain output :: rest) =
      [(⟨first, .one⟩, [source], 1), (⟨second, .one⟩, [output], 1)] := by
    have one : (⟨first, .one⟩ : Place).fill (.plain source :: .plain output :: rest) =
        some ([source], 1) := by
      simp [Place.fill, sourcePlain]
    have other : (⟨second, .one⟩ : Place).fill (.plain output :: rest) = some ([output], 1) := by
      simp only [Place.fill, List.takeWhile_cons_of_neg, List.drop_zero, outputPlain, false_and,
        if_false, Bool.false_eq_true, not_false_iff, List.length_nil]
      rw [undivided _ fun _ _ => rfl]
      rfl
    simp [fillMost, places, List.range_succ, fillAll, one, other]
  simp only [fillPlaces, filled, List.foldlM_cons, List.foldlM_nil, settle, regular.give, ok_bind,
    pure_eq]
  simp [Progress.said, Progress.set, places]

/-- Where all places are filled and nothing is left, reading is over. -/
theorem walk_end {p : Progress} (done : p.places = []) (fuel : ℕ) : g.walk (fuel + 1) p [] = .ok p := by
  have filled : g.fillPlaces p [] = .ok (p, []) := by
    obtain ⟨settings, met, given, extras, places⟩ := p
    obtain rfl : places = [] := done
    simp [fillPlaces, fillMost, fillAll]
  simp [walk, filled]

theorem walk_pair (regular : g.Regular) {p : Progress} {first second : String}
    {source output : String} (places : p.places = [⟨first, .one⟩, ⟨second, .one⟩])
    (sourcePlain : source ≠ doubleDash) (outputPlain : output ≠ doubleDash) {rest : List Token}
    (flags : BeginsWithFlag rest) (fuel : ℕ) :
    g.walk (fuel + 2) p (.plain source :: .plain output :: rest) =
      g.walk (fuel + 1)
        { (p.said first (.text source)).said second (.text output) with places := [] } rest := by
  have filled := fillPlaces_pair regular places sourcePlain outputPlain flags
  cases rest with
  | nil =>
      rw [walk, filled, walk_end rfl]
      · simp [Token.isFlag]
      · intro _ _ _ same
        cases same
  | cons t rest =>
      have flag : t.isFlag = true := flags t rfl
      have more : (Token.plain source :: .plain output :: t :: rest).any Token.isFlag = true := by
        simp [flag]
      rw [walk, filled, ok_bind]
      · simp [more]
      · intro _ _ _ same
        cases same

theorem heard_places {p : Progress} (words : List (Word g)) : (p.heard words).places = p.places := by
  induction words generalizing p with
  | nil => rfl
  | cons w words ih => exact ih

theorem heard_extras {p : Progress} (words : List (Word g)) : (p.heard words).extras = p.extras := by
  induction words generalizing p with
  | nil => rfl
  | cons w words ih => exact ih

theorem met_heard {p : Progress} (words : List (Word g)) {name : String}
    (met : name ∈ p.met ∨ ∃ w ∈ words, w.name = name) : name ∈ (p.heard words).met := by
  induction words generalizing p with
  | nil => simpa [Progress.heard] using met
  | cons w words ih =>
      refine ih ?_
      simp only [List.mem_cons, exists_eq_or_imp] at met
      rcases met with old | rfl | later
      · exact .inl (List.mem_cons_of_mem _ old)
      · exact .inl List.mem_cons_self
      · exact .inr later

theorem find?_heard {p : Progress} (words : List (Word g)) (name : String) :
    (p.heard words).find? name =
      ((words.reverse.find? (·.name == name)).map (·.setting)).or (p.find? name) := by
  induction words generalizing p with
  | nil => rfl
  | cons w words ih =>
      have set : (p.said w.name w.setting).find? name =
          if w.name = name then some w.setting else p.find? name := Progress.find?_set _ _ _ _
      change ((p.said w.name w.setting).heard words).find? name = _
      rw [ih, set, List.reverse_cons, List.find?_append]
      cases words.reverse.find? (·.name == name) with
      | some => rfl
      | none => by_cases same : w.name = name <;> simp [same]

/-- Nothing is missing where all that has to be there was met. -/
theorem Regular.complete (regular : g.Regular) {p : Progress}
    (places : ∀ place ∈ g.places, place.name ∈ p.met)
    (switches : ∀ s ∈ g.switches, s.required = true → s.name ∈ p.met) :
    g.complete p = .ok p := by
  unfold Grammar.complete
  dsimp only
  rw [if_neg, if_neg]
  · simp [regular.peaceful]
  · simp only [ne_eq, not_not, List.append_eq_nil_iff, List.map_eq_nil_iff, List.filter_eq_nil_iff]
    constructor
    · intro place listed
      cases place.arity <;> simp [places place listed]
    · intro s listed
      cases has : s.required
      · simp
      · simp [switches s listed has]

theorem Spells.named {arguments : List String} {name : String} {setting : Setting}
    (spells : g.Spells arguments name setting) : ∃ s ∈ g.switches, s.name = name := by
  cases spells with
  | equals known | letter known | apart known | on known =>
      exact ⟨_, mem_switches_of_switch? known, rfl⟩

end Grammar

/-- What was read is what the words say, the last of each name, with two texts under names
of their own. -/
structure Progress.Hears {g : Grammar} (p : Progress) (words : List (Word g))
    (first source second output : String) : Prop where
  source : p.find? first = some (.text source)
  output : p.find? second = some (.text output)
  words : ∀ name, name ≠ first → name ≠ second →
    p.find? name = (words.reverse.find? (·.name == name)).map (·.setting)

/-- What is left of reading when words are said, then two texts in two places, then more
words. -/
def Progress.heardAround {g : Grammar} (p : Progress) (before after : List (Word g))
    (first source second output : String) : Progress :=
  ({ ((p.heard before).said first (.text source)).said second (.text output) with
    places := [] } : Progress).heard after

namespace Grammar

section

variable {first second source output : String} {before after : List (Word g)}

/-- Words before and behind two plain arguments are told apart, and read in as many rounds
and one for the two. -/
theorem Regular.line_told (regular : g.Regular) (sourcePlain : IsPlain source)
    (outputPlain : IsPlain output) (before after : List (Word g)) : ∃ ts,
    g.tokens (before.flatMap (·.arguments) ++ source :: output :: after.flatMap (·.arguments)) =
      .ok ts ∧
    ∀ (p : Progress), p.places = [⟨first, .one⟩, ⟨second, .one⟩] →
      g.walk (2 * ts.length + 2) p ts = .ok (p.heardAround before after first source second output) := by
  obtain ⟨front, frontTokens, frontRounds, frontLong, -⟩ := words_told regular before
  obtain ⟨back, backTokens, backRounds, backLong, flags⟩ := words_told regular after
  refine ⟨front ++ .plain source :: .plain output :: back, ?_, fun p two => ?_⟩
  · have behind := backTokens []
    rw [List.append_nil] at behind
    rw [frontTokens, tokens_cons sourcePlain.ne_doubleDash, regular.token_plain sourcePlain,
      tokens_cons outputPlain.ne_doubleDash, regular.token_plain outputPlain, behind]
    simp [tokens, Except.map]
  · obtain ⟨fuel, long⟩ : ∃ fuel, 2 * (front ++ .plain source :: .plain output :: back).length + 2 =
        before.length + (after.length + (fuel + 1) + 2) := by
      refine ⟨2 * (front ++ .plain source :: .plain output :: back).length + 2 -
        (before.length + after.length + 3), ?_⟩
      simp only [List.length_append, List.length_cons]
      omega
    have rounds (q : Progress) := backRounds (fuel + 2) q []
    simp only [List.append_nil] at rounds
    rw [long, frontRounds, walk_pair regular ((heard_places before).trans two)
      sourcePlain.ne_doubleDash outputPlain.ne_doubleDash flags]
    exact (rounds _).trans (walk_end (heard_places after) _)

theorem met_heardAround {p : Progress} {name : String}
    (met : name = first ∨ name = second ∨ ∃ w ∈ before ++ after, w.name = name) :
    name ∈ (p.heardAround before after first source second output).met := by
  refine met_heard after ?_
  rcases met with rfl | rfl | ⟨w, said, named⟩
  · exact .inl (List.mem_cons_of_mem _ List.mem_cons_self)
  · exact .inl List.mem_cons_self
  · rcases List.mem_append.mp said with front | back
    · exact .inl (List.mem_cons_of_mem _ (List.mem_cons_of_mem _
        (met_heard before (.inr ⟨w, front, named⟩))))
    · exact .inr ⟨w, back, named⟩

/-- Nothing that is said stands under another name than those of the switches. -/
theorem unsaid {name : String} (names : ∀ s ∈ g.switches, s.name ≠ name) (words : List (Word g)) :
    words.reverse.find? (·.name == name) = none := by
  refine List.find?_eq_none.mpr fun w _ => ?_
  obtain ⟨s, listed, named⟩ := w.spells.named
  simpa [← named] using names s listed

theorem find?_heardAround (p : Progress) (name : String) :
    (p.heardAround before after first source second output).find? name =
      ((after.reverse.find? (·.name == name)).map (·.setting)).or
        (if second = name then some (.text output) else if first = name then some (.text source)
          else ((before.reverse.find? (·.name == name)).map (·.setting)).or (p.find? name)) := by
  have front : ((p.heard before).said first (.text source)).find? name =
      if first = name then some (.text source) else (p.heard before).find? name :=
    Progress.find?_set _ _ _ _
  have pair : (((p.heard before).said first (.text source)).said second (.text output)).find? name =
      if second = name then some (.text output) else
        ((p.heard before).said first (.text source)).find? name := Progress.find?_set _ _ _ _
  rw [Progress.heardAround, find?_heard, ← find?_heard before, ← front]
  exact congrArg _ pair

/-- Words and two plain arguments are read as what they say, whatever stands before the
two and whatever behind them. -/
theorem Regular.parse (regular : g.Regular) (apart : first ≠ second)
    (places : g.places = [⟨first, .one⟩, ⟨second, .one⟩])
    (names : ∀ s ∈ g.switches, s.name ≠ first ∧ s.name ≠ second)
    (sourcePlain : IsPlain source) (outputPlain : IsPlain output) (before after : List (Word g))
    (required : ∀ s ∈ g.switches, s.required = true → ∃ w ∈ before ++ after, w.name = s.name) :
    ∃ p, g.parse (before.flatMap (·.arguments) ++ source :: output ::
        after.flatMap (·.arguments)) = .ok p ∧ p.extras = [] ∧
      p.Hears (before ++ after) first source second output := by
  obtain ⟨ts, tokens, walked⟩ := regular.line_told sourcePlain outputPlain before after
  let start : Progress := { places := g.places }
  let p := start.heardAround before after first source second output
  have complete : g.complete p = .ok p := by
    refine regular.complete (fun place listed => met_heardAround ?_) fun s listed has =>
      met_heardAround (.inr (.inr (required s listed has)))
    rw [places] at listed
    simp at listed
    rcases listed with rfl | rfl
    · exact .inl rfl
    · exact .inr (.inl rfl)
  have unsaidFirst := unsaid (fun s listed => (names s listed).1) after
  have unsaidSecond := unsaid (fun s listed => (names s listed).2) after
  refine ⟨p, ?_, (heard_extras after).trans (heard_extras before), ?_, ?_,
    fun name other other' => ?_⟩
  · rw [Grammar.parse, tokens, ok_bind, walked start places, ok_bind, complete]
  · simp [p, find?_heardAround, unsaidFirst, apart.symm]
  · simp [p, find?_heardAround, unsaidSecond]
  · rw [find?_heardAround, if_neg other'.symm, if_neg other.symm, List.reverse_append,
      List.find?_append, Option.map_or]
    simp [start, Progress.find?]

end

end Grammar

/-! ## Handing over -/

/-- What follows the name of a command is handed over to it. -/
theorem parse_command {name : String} {rest : List String} (known : name ∈ commandNames)
    (named : ∀ text ∈ rest, ¬IsBlankFlag text) :
    mainGrammar.parse (name :: rest) =
      .ok { settings := [("command", .command name rest)], met := ["command"], given := ["command"],
            places := [] } := by
  have plain : name.toList.head? ≠ some '-' := by
    revert name
    decide +kernel
  obtain ⟨ts, reads⟩ := tokens_main named
  have texts := Grammar.tokens_texts rest ts reads
  have dashed : name ≠ "--" := by
    rintro rfl
    exact plain (by decide +kernel)
  have tokens : mainGrammar.tokens (name :: rest) = .ok (.plain name :: ts) := by
    rw [Grammar.tokens, Grammar.token_plain _ plain, reads]
    · rfl
    · exact dashed
  have filled : mainGrammar.fillPlaces { places := mainGrammar.places } (.plain name :: ts) =
      .ok ({ settings := [("command", .command name rest)], met := ["command"],
             given := ["command"], places := [] }, []) := by
    have most : fillMost mainGrammar.places (.plain name :: ts) =
        [(⟨"command", .command commandNames⟩, name :: rest, ts.length + 1)] := by
      simp [fillMost, mainGrammar, List.range_succ, fillAll, Place.fill, Token.text, texts]
    simp only [Grammar.fillPlaces, most, List.foldlM_cons, List.foldlM_nil, Grammar.settle]
    rw [if_pos (List.contains_iff_mem.mpr known)]
    simp [Grammar.give, mainGrammar, Progress.set, ok_bind, pure_eq]
  rw [Grammar.parse, tokens, ok_bind, Grammar.walk, filled, ok_bind]
  · dsimp only
    split_ifs with silent short
    · rfl
    · rw [Grammar.walk_end rfl]
      rfl
    · simp at short
  · intro _ _ _ same
    cases same

/-! ## Command lines of an operation -/

section

variable {o : Operation} {arguments : List String}

/-- A command line asks for an operation just as what follows its name does. -/
theorem asksFor_iff (named : ∀ text ∈ arguments, ¬IsBlankFlag text) {p : Progress} :
    AsksFor (o.name :: arguments) o p ↔
      (operationGrammar o).parse arguments = .ok p ∧ p.extras = [] := by
  have known : o.name ∈ commandNames := by cases o <;> decide +kernel
  have command := parse_command known named
  constructor
  · rintro ⟨m, rest, main, found, read, -, none_⟩
    obtain rfl := Except.ok.inj (command.symm.trans main)
    cases found
    exact ⟨read, none_⟩
  · rintro ⟨read, none_⟩
    exact ⟨_, arguments, command, rfl, read, rfl, none_⟩

/-- A name behind two dashes, with a dash for each underscore. -/
def longFlag (name : String) : String :=
  String.ofList ('-' :: '-' :: name.toList.map fun c => if c = '_' then '-' else c)

/-- The flags that a name goes by: the long one, or its first letter, small or big, behind
one dash. -/
def IsFlagOf (name flag : String) : Prop :=
  flag = longFlag name ∨ flag.toList.map Char.toLower = '-' :: name.toList.take 1

/-- The values that an operation takes. -/
def valuesOf (o : Operation) : List (String × Reading) :=
  [("format", .text), ("quality", .whole), ("watermark", .text), ("watermark_colored", .text)] ++
    match o with
    | .rotate => [("degree", .whole)]
    | .flip => [("position", .text)]
    | .resize | .thumbnail | .fit => [("width", .whole), ("height", .whole)]

/-- Whatever is read as a value can be said under the long flag of its name. -/
def Sayable (o : Operation) (name : String) (r : Reading) : Prop :=
  ∀ given setting, r.Reads given setting → given ≠ doubleDash →
    ∃ w : Word (operationGrammar o), w.arguments = [longFlag name ++ "=" ++ given] ∧
      w.name = name ∧ w.setting = setting

theorem sayable (o : Operation) : ∀ entry ∈ valuesOf o, Sayable o entry.1 entry.2 := by
  have offered : ∀ entry ∈ valuesOf o, ∃ s, (operationGrammar o).switch? (longFlag entry.1) = some s ∧
      s.name = entry.1 ∧ s.effect = .store entry.2 := by
    cases o <;> simp only [valuesOf, List.cons_append, List.nil_append, List.forall_mem_cons]
    case rotate | flip =>
      exact ⟨⟨_, rfl, rfl, rfl⟩, ⟨_, rfl, rfl, rfl⟩, ⟨_, rfl, rfl, rfl⟩, ⟨_, rfl, rfl, rfl⟩,
        ⟨_, rfl, rfl, rfl⟩, nofun⟩
    case resize | thumbnail | fit =>
      exact ⟨⟨_, rfl, rfl, rfl⟩, ⟨_, rfl, rfl, rfl⟩, ⟨_, rfl, rfl, rfl⟩, ⟨_, rfl, rfl, rfl⟩,
        ⟨_, rfl, rfl, rfl⟩, ⟨_, rfl, rfl, rfl⟩, nofun⟩
  intro entry listed given setting reads valued
  obtain ⟨s, known, named, stores⟩ := offered entry listed
  exact ⟨⟨_, _, _, .equals known stores reads valued⟩, rfl, named, rfl⟩

/-- A word begins with a flag of its name. -/
def Word.Flagged (w : Word (operationGrammar o)) : Prop :=
  ∃ flag first rest, IsFlagOf w.name flag ∧ w.arguments = first :: rest ∧
    flag.toList <+: first.toList

theorem operation_flags (o : Operation) : ∀ f ∈ (operationGrammar o).flags, IsFlagOf f.2.name f.1 := by
  cases o <;> unfold IsFlagOf <;> decide +kernel

/-- Every word sets what its flag is named for. -/
theorem Word.flagged (w : Word (operationGrammar o)) : w.Flagged := by
  obtain ⟨arguments, name, setting, spells⟩ := w
  have named {flag : String} {s : Switch} (known : (operationGrammar o).switch? flag = some s) :
      IsFlagOf s.name flag := operation_flags o _ (Grammar.mem_flags_of_switch? known)
  cases spells with
  | @equals flag given s r setting known =>
      exact ⟨flag, _, [], named known, rfl, by simp⟩
  | letter known => exact ⟨_, _, [], named known, rfl, by simp⟩
  | apart known => exact ⟨_, _, _, named known, rfl, List.prefix_rfl⟩
  | on known => exact ⟨_, _, [], named known, rfl, List.prefix_rfl⟩

/-- No word is a blank flag. -/
theorem Grammar.Spells.named_flag {g : Grammar} (regular : g.Regular) {name : String} {setting : Setting}
    (spells : g.Spells arguments name setting) : ∀ text ∈ arguments, ¬IsBlankFlag text := by
  have flag_ {flag : String} {s : Switch} (known : g.switch? flag = some s) (tail : List Char) :
      ¬(['-', '-', '='] <+: flag.toList ++ tail) := by
    obtain ⟨c, same, other, bare⟩ | ⟨rest, same, some_, bare⟩ :=
      regular.shapes (mem_flags_of_switch? known)
    · simp only at same
      simp [same, Ne.symm other]
    · obtain ⟨c, more, rfl⟩ := List.exists_cons_of_ne_nil some_
      simp only at same
      have c_ : '=' ≠ c := fun equals => bare (equals ▸ List.mem_cons_self)
      simp [same, c_]
  cases spells with
  | @equals flag given _ _ _ known =>
      simpa [IsBlankFlag, List.append_assoc] using flag_ known ('=' :: given.toList)
  | @letter letter given _ _ _ known =>
      simpa [IsBlankFlag] using flag_ known given.toList
  | @apart flag given _ _ _ known stores reads plain =>
      exact List.forall_mem_cons.mpr ⟨by simpa [IsBlankFlag] using flag_ known [],
        List.forall_mem_singleton.mpr plain.named⟩
  | @on flag _ known => simpa [IsBlankFlag] using flag_ known []

end

/-- A command line that is spelled out: its files, with words before and behind them, and
no word missing that has to be there. -/
structure Spelled (o : Operation) where
  before : List (Word (operationGrammar o))
  source : String
  output : String
  after : List (Word (operationGrammar o))
  sourcePlain : IsPlain source
  outputPlain : IsPlain output
  complete : ∀ s ∈ (operationGrammar o).switches, s.required = true →
    ∃ w ∈ before ++ after, w.name = s.name

namespace Spelled

variable {o : Operation}

/-- All its words, from left to right. -/
def words (line : Spelled o) : List (Word (operationGrammar o)) := line.before ++ line.after

def arguments (line : Spelled o) : List String :=
  o.name :: (line.before.flatMap (·.arguments) ++ line.source :: line.output ::
    line.after.flatMap (·.arguments))

/-- What is spelled out is asked for. -/
theorem asks (line : Spelled o) : ∃ p, AsksFor line.arguments o p ∧
    p.Hears line.words "source" line.source "output" line.output := by
  have regular := operation_regular o
  have names : ∀ s ∈ (operationGrammar o).switches, s.name ≠ "source" ∧ s.name ≠ "output" := by
    cases o <;> simp [operationGrammar, fileSwitches, operationSwitches, helpSwitch]
  obtain ⟨p, read, none_, hears⟩ := regular.parse (by decide) rfl names line.sourcePlain
    line.outputPlain line.before line.after line.complete
  have words (ws : List (Word (operationGrammar o))) :
      ∀ text ∈ ws.flatMap (·.arguments), ¬IsBlankFlag text := by
    intro text listed
    obtain ⟨w, -, listed⟩ := List.mem_flatMap.mp listed
    exact w.spells.named_flag regular text listed
  have named : ∀ text ∈ line.before.flatMap (·.arguments) ++ line.source :: line.output ::
      line.after.flatMap (·.arguments), ¬IsBlankFlag text := by
    simp only [List.forall_mem_append, List.forall_mem_cons]
    exact ⟨words _, line.sourcePlain.named, line.outputPlain.named, words _⟩
  exact ⟨p, (asksFor_iff named).mpr ⟨read, none_⟩, hears⟩

end Spelled

/-- How an operation is told what to do: each of its values and the leave to enlarge under
a long flag, each flag for what it is named for, and of a line what its words say. -/
structure Understood (o : Operation) : Prop where
  values : ∀ entry ∈ valuesOf o, Sayable o entry.1 entry.2
  upscale : o.isResample = true → ∃ w : Word (operationGrammar o),
    w.arguments = [longFlag "upscale"] ∧ w.name = "upscale" ∧ w.setting = .on
  flags : ∀ w : Word (operationGrammar o), w.Flagged
  lines : ∀ line : Spelled o, ∃ p, AsksFor line.arguments o p ∧
    p.Hears line.words "source" line.source "output" line.output

theorem understood (o : Operation) : Understood o where
  values := sayable o
  upscale resamples := by
    have known : ∃ s, (operationGrammar o).switch? (longFlag "upscale") = some s ∧
        s.name = "upscale" ∧ s.effect = .turnOn := by
      cases o with
      | resize | thumbnail | fit => exact ⟨_, rfl, rfl, rfl⟩
      | rotate | flip => cases resamples
    obtain ⟨s, known, named, turns⟩ := known
    exact ⟨⟨_, _, _, .on known turns⟩, rfl, named, rfl⟩
  flags := Word.flagged
  lines := Spelled.asks

end Darkroom.Command
