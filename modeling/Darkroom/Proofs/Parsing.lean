/-
# Darkroom.Proofs.Parsing -- what a grammar lets through

`Admits` says which settings a grammar can come to: a value that one of its switches
reads, a count, a switch that is on, an argument in one of its places, a command it
knows, and nothing where a double dash stands for a value.  Reading starts without
settings, and filling a place or carrying out a switch adds an admitted one
(`Progress.Sound`), so whatever is read ends with admitted settings alone, and no argument
that has to be there is missing (`parse_sound`).

For the program this settles the level of the log: the name that a command line gives is
one of the level names, so that no wish that was read is refused (`ofWish_found`).
-/
import Darkroom.Command.Request
import Darkroom.Proofs.Outcome

namespace Darkroom

set_option autoImplicit false

open Outcome

/-- The name of a level is read as that level. -/
theorem Log.Level.ofText?_name (level : Log.Level) : ofText? level.name = some level := by
  cases level <;> decide

namespace Command

/-- Whether a switch comes with a value. -/
def Effect.takesValue : Effect → Bool
  | .store _ => true
  | _ => false

/-- The settings that a grammar can come to. -/
inductive Grammar.Admits (g : Grammar) : String → Setting → Prop
  | value {s : Switch} {r : Reading} {given : String} {setting : Setting}
      (listed : s ∈ g.switches) (stores : s.effect = .store r)
      (read : g.read s.title r given = .ok setting) : g.Admits s.name setting
  | dashed {s : Switch} {r : Reading} (listed : s ∈ g.switches) (stores : s.effect = .store r) :
      g.Admits s.name .void
  | count {s : Switch} (listed : s ∈ g.switches) (counts : s.effect = .count) (n : Nat) :
      g.Admits s.name (.count n)
  | on {s : Switch} (listed : s ∈ g.switches) (turns : s.effect = .turnOn) :
      g.Admits s.name .on
  | argument {place : Place} (listed : place ∈ g.places)
      (plain : place.arity = .one ∨ place.arity = .optional) (given : String) :
      g.Admits place.name (.text given)
  | emptied {place : Place} (listed : place ∈ g.places) (plain : place.arity = .one) :
      g.Admits place.name .void
  | command {place : Place} {names : List String} {name : String} (listed : place ∈ g.places)
      (commands : place.arity = .command names) (known : name ∈ names) (rest : List String) :
      g.Admits place.name (.command name rest)

/-- Nothing was read that the grammar does not admit, only its own places are still to be
filled, and what was met is set, but for a place that may stay empty. -/
structure Progress.Sound (g : Grammar) (p : Progress) : Prop where
  settings : ∀ name setting, (name, setting) ∈ p.settings → g.Admits name setting
  places : ∀ place ∈ p.places, place ∈ g.places
  met : ∀ name ∈ p.met,
    p.find? name ≠ none ∨ ∃ place ∈ g.places, place.name = name ∧ place.arity ≠ .one

theorem Progress.find?_set (p : Progress) (name other : String) (setting : Setting) :
    (p.set name setting).find? other = if name = other then some setting else p.find? other := by
  unfold find? set
  by_cases same : name = other
  · rw [if_pos same, List.find?_cons_of_pos (by simpa using same)]
    rfl
  · rw [if_neg same, List.find?_cons_of_neg (by simpa using same)]

namespace Progress.Sound

variable {g : Grammar} {p : Progress}

/-- What is noted besides settings and places makes no difference. -/
theorem extras (sound : p.Sound g) (extras : List String) :
    ({ p with extras := extras } : Progress).Sound g :=
  ⟨sound.settings, sound.places, sound.met⟩

/-- What is given is set. -/
theorem give (sound : p.Sound g) {name : String} {setting : Progress → Setting}
    (admitted : ∀ q, g.Admits name (setting q)) :
    Gives (·.Sound g) ((g.give name p) >>= fun q => .ok (q.set name (setting q))) := by
  intro q came
  obtain ⟨r, given, made⟩ := bind_eq_ok.mp came
  obtain rfl := Except.ok.inj made
  unfold Grammar.give at given
  dsimp only at given
  split at given
  · cases given
  obtain rfl := Except.ok.inj given
  refine ⟨fun other s member => ?_, sound.places, fun other met => ?_⟩
  · rcases List.mem_cons.mp member with same | old
    · cases same
      exact admitted _
    · exact sound.settings other s old
  · rw [Progress.find?_set]
    split_ifs with same
    · exact .inl nofun
    · exact sound.met other ((List.mem_cons.mp met).resolve_left (Ne.symm same))

/-- What is found is admitted. -/
theorem admits_of_find? (sound : p.Sound g) {name : String} {setting : Setting}
    (found : p.find? name = some setting) : g.Admits name setting := by
  obtain ⟨entry, first, rfl⟩ := Option.map_eq_some_iff.mp found
  obtain rfl : entry.1 = name := by simpa using List.find?_some first
  exact sound.settings entry.1 entry.2 (List.mem_of_find?_eq_some first)

end Progress.Sound

namespace Grammar

variable {g : Grammar} {p : Progress}

/-! ## Flags -/

/-- A flag that was recognised is one of the grammar. -/
def Knows (g : Grammar) : Token → Prop
  | .flag _ (some hit) => hit.switch ∈ g.switches
  | _ => True

theorem mem_switches_of_mem_flags {flag : String × Switch} (member : flag ∈ g.flags) :
    flag.2 ∈ g.switches := by
  obtain ⟨s, listed, named⟩ := List.mem_flatMap.mp member
  obtain ⟨text, -, rfl⟩ := List.mem_map.mp named
  exact listed

theorem mem_switches_of_switch? {flag : String} {s : Switch} (found : g.switch? flag = some s) :
    s ∈ g.switches := by
  obtain ⟨entry, first, rfl⟩ := Option.map_eq_some_iff.mp found
  exact mem_switches_of_mem_flags (List.mem_of_find?_eq_some first)

theorem mem_switches_of_candidates {argument : String} {hit : Hit}
    (member : hit ∈ g.candidates argument) : hit.switch ∈ g.switches := by
  unfold candidates at member
  split at member
  · obtain ⟨flag, listed, rfl⟩ := List.mem_map.mp member
    exact mem_switches_of_mem_flags (List.mem_of_mem_filter listed)
  · obtain ⟨flag, listed, made⟩ := List.mem_filterMap.mp member
    split_ifs at made
    · obtain rfl := Option.some.inj made
      exact mem_switches_of_mem_flags listed
    · obtain rfl := Option.some.inj made
      exact mem_switches_of_mem_flags listed
  · cases member

theorem token_known (argument : String) : Gives g.Knows (g.token argument) := by
  unfold token
  split
  case h_2 => exact .ok trivial
  case h_1 tail _ =>
    split
    case h_1 s found => exact .ok (mem_switches_of_switch? found)
    case h_2 =>
      split
      · exact .ok trivial
      · dsimp only
        split
        case h_1 hit named =>
          obtain ⟨⟨flag, value⟩, -, made⟩ := Option.bind_eq_some_iff.mp named
          obtain ⟨s, found, rfl⟩ := Option.map_eq_some_iff.mp made
          exact .ok (mem_switches_of_switch? found)
        case h_2 =>
          split
          case h_1 hit only =>
            exact .ok (mem_switches_of_candidates (by rw [only]; exact List.mem_singleton_self hit))
          case h_2 =>
            split
            · exact .ok trivial
            · exact .ok trivial
          case h_3 => exact .error _

theorem tokens_known (arguments : List String) :
    Gives (fun tokens => ∀ t ∈ tokens, g.Knows t) (g.tokens arguments) := by
  induction arguments with
  | nil => exact .ok nofun
  | cons argument rest ih =>
      unfold tokens
      split
      case h_1 => exact .ok nofun
      case h_2 divider later same =>
        cases same
        refine .ok fun t member => ?_
        rcases List.mem_cons.mp member with rfl | plain
        · trivial
        · obtain ⟨text, -, rfl⟩ := List.mem_map.mp plain
          trivial
      case h_3 first later _ same =>
        cases same
        refine .bind (token_known argument) fun t known => .bind ih fun ts later => .ok ?_
        exact List.forall_mem_cons.mpr ⟨known, later⟩

/-- A flag asks for switches of the grammar, each with a value if it takes one. -/
structure Asks (g : Grammar) (asked : Unfolding) : Prop where
  steps : ∀ step ∈ asked.steps, step.1 ∈ g.switches ∧ step.1.effect.takesValue = step.2.isSome
  rest : ∀ t ∈ asked.rest, g.Knows t

theorem Asks.one {s : Switch} {value : Option String} {rest : List Token}
    (listed : s ∈ g.switches) (takes : s.effect.takesValue = value.isSome) (extras : List String)
    (known : ∀ t ∈ rest, g.Knows t) : g.Asks ⟨[(s, value)], extras, rest⟩ := by
  refine ⟨fun step member => ?_, known⟩
  obtain rfl := List.mem_singleton.mp member
  exact ⟨listed, takes⟩

theorem unfold_asks {s : Switch} (listed : s ∈ g.switches) (flag : String)
    (attached : Option Attachment) {rest : List Token} (known : ∀ t ∈ rest, g.Knows t) :
    Gives g.Asks (g.unfold s flag attached rest) := by
  have takesNone {s : Switch} (other : ∀ r, s.effect = .store r → False) :
      s.effect.takesValue = (none : Option String).isSome := by
    cases effect : s.effect <;> first | rfl | exact (other _ effect).elim
  fun_induction g.unfold s flag attached rest
  case case1 s flag value r stores =>
    exact .ok (.one listed (by rw [stores]; rfl) [] known)
  case case2 s flag r stores value later same =>
    subst same
    exact .ok (.one listed (by rw [stores]; rfl) [] (List.forall_mem_cons.mp known).2)
  case case3 => exact .error _
  case case4 other => exact .ok (.one listed (takesNone other) [] known)
  case case5 | case6 => exact .error _
  case case7 other => exact .ok (.one listed (takesNone other) _ known)
  case case8 found other ih =>
    refine .bind (ih (mem_switches_of_switch? found)) fun later asks => .ok ⟨?_, asks.rest⟩
    exact List.forall_mem_cons.mpr ⟨⟨listed, takesNone other⟩, asks.steps⟩

/-! ## Steps -/

/-- Carrying out a switch sets what it is about. -/
theorem carryOut_sound (sound : p.Sound g) {s : Switch} (listed : s ∈ g.switches)
    {value : Option String} (takes : s.effect.takesValue = value.isSome) :
    Gives (·.Sound g) (g.carryOut p s value) := by
  cases effect : s.effect with
  | store r =>
      obtain ⟨given, rfl⟩ : ∃ given, value = some given := by
        rw [effect] at takes
        exact Option.isSome_iff_exists.mp takes.symm
      simp only [carryOut, effect, store]
      split
      · exact sound.give fun _ => .dashed listed effect
      · intro q came
        obtain ⟨setting, read, came⟩ := bind_eq_ok.mp came
        exact sound.give (fun _ => .value listed effect read) q came
  | help =>
      simp only [carryOut, effect, flip]
      intro q came
      obtain ⟨_, -, stop⟩ := bind_eq_ok.mp came
      cases stop
  | count =>
      simp only [carryOut, effect, flip]
      exact sound.give fun _ => .count listed effect _
  | turnOn =>
      simp only [carryOut, effect, flip]
      exact sound.give fun _ => .on listed effect

/-- Filling a place sets what it takes. -/
theorem settle_sound (sound : p.Sound g) {place : Place} (listed : place ∈ g.places)
    (texts : List String) : Gives (·.Sound g) (g.settle p place texts) := by
  unfold settle
  split
  case h_1 names name rest commands =>
    split
    case isTrue known =>
      have member : name ∈ names := List.contains_iff_mem.mp known
      exact sound.give fun _ => .command listed commands member rest
    case isFalse => exact .error _
  case h_2 one =>
    exact sound.give fun _ => .emptied listed one
  case h_3 text rest other =>
    have plain : place.arity = .one ∨ place.arity = .optional := by
      cases arity : place.arity with
      | one => exact .inl rfl
      | optional => exact .inr rfl
      | command names => exact (other names arity).elim
    exact sound.give fun _ => .argument listed plain text
  case h_4 other =>
    refine .ok ⟨sound.settings, sound.places, fun name met => ?_⟩
    rcases List.mem_cons.mp met with rfl | old
    · exact .inr ⟨place, listed, rfl, other⟩
    · exact sound.met name old

/-- What is filled at once is a run of the places from the front. -/
theorem places_of_fillAll {places : List Place} {tokens : List Token}
    {filled : List (Place × List String × Nat)} (done : fillAll places tokens = some filled) :
    filled.map (·.1) = places := by
  induction places generalizing tokens filled with
  | nil =>
      obtain rfl := Option.some.inj done
      rfl
  | cons place rest ih =>
      obtain ⟨⟨texts, n⟩, -, done⟩ := Option.bind_eq_some_iff.mp done
      obtain ⟨later, filledLater, made⟩ := Option.bind_eq_some_iff.mp done
      obtain rfl := Option.some.inj made
      rw [List.map_cons, ih filledLater]

theorem mem_places_of_fillMost {places : List Place} {tokens : List Token}
    {entry : Place × List String × Nat} (member : entry ∈ fillMost places tokens) :
    entry.1 ∈ places := by
  unfold fillMost at member
  cases found : (List.range (places.length + 1)).reverse.findSome? fun n =>
      fillAll (places.take n) tokens with
  | none =>
      rw [found] at member
      cases member
  | some filled =>
      rw [found] at member
      obtain ⟨n, -, done⟩ := List.exists_of_findSome?_eq_some found
      refine List.mem_of_mem_take (i := n) ?_
      rw [← places_of_fillAll done]
      exact List.mem_map_of_mem member

theorem fillPlaces_sound (sound : p.Sound g) {tokens : List Token}
    (known : ∀ t ∈ tokens, g.Knows t) :
    Gives (fun next => next.1.Sound g ∧ ∀ t ∈ next.2, g.Knows t) (g.fillPlaces p tokens) := by
  have filled : Gives (·.Sound g)
      ((fillMost p.places tokens).foldlM (fun p f => g.settle p f.1 f.2.1) p) :=
    .foldlM (fun q kept entry member =>
      settle_sound kept (sound.places _ (mem_places_of_fillMost member)) _) sound
  refine .bind filled fun q kept => .ok ⟨⟨kept.settings, fun place member => ?_, kept.met⟩, ?_⟩
  · exact kept.places place (List.mem_of_mem_drop member)
  · exact fun t member => known t (List.mem_of_mem_drop member)

theorem takeFlag_sound (sound : p.Sound g) (text : String) {hit : Option Hit} {rest : List Token}
    (known : ∀ t ∈ Token.flag text hit :: rest, g.Knows t) :
    Gives (fun next => next.1.Sound g ∧ ∀ t ∈ next.2, g.Knows t) (g.takeFlag p text hit rest) := by
  obtain ⟨here, later⟩ := List.forall_mem_cons.mp known
  cases hit with
  | none => exact .ok ⟨sound.extras _, later⟩
  | some hit =>
      refine .bind (unfold_asks here hit.flag hit.attached later) fun asked asks => ?_
      have carried : Gives (·.Sound g) (asked.steps.foldlM
          (fun p step => g.carryOut p step.1 step.2) _) :=
        .foldlM (fun q kept step member => carryOut_sound kept (asks.steps step member).1
          (asks.steps step member).2) (sound.extras (p.extras ++ asked.extras))
      exact .bind carried fun q kept => .ok ⟨kept, asks.rest⟩

/-! ## Runs -/

/-- Going through tokens keeps to what the grammar admits: each round fills places or
carries out a flag. -/
theorem walk_sound (fuel : Nat) {tokens : List Token} (sound : p.Sound g)
    (known : ∀ t ∈ tokens, g.Knows t) : Gives (·.Sound g) (g.walk fuel p tokens) := by
  induction fuel generalizing p tokens with
  | zero => exact .ok sound
  | succ fuel ih =>
      unfold walk
      split
      case h_1 text hit rest =>
        exact .bind (takeFlag_sound sound text known) fun next kept => ih kept.1 kept.2
      case h_2 =>
        refine .bind (fillPlaces_sound sound known) fun next kept => ?_
        obtain ⟨filled, rest⟩ := next
        dsimp only
        split
        · exact .ok (kept.1.extras _)
        · split
          · exact ih kept.1 kept.2
          · refine ih (kept.1.extras _) fun t member => ?_
            exact known t ((List.dropWhile_sublist _).subset member)

/-- A place that takes one argument was met when nothing is missing. -/
theorem met_of_complete {q : Progress} (done : g.complete p = .ok q) :
    q = p ∧ ∀ place ∈ g.places, place.arity = .one → place.name ∈ p.met := by
  unfold complete at done
  dsimp only at done
  split_ifs at done with missing rivals
  case pos | pos => cases done
  refine ⟨(Except.ok.inj done).symm, fun place listed one => ?_⟩
  by_contra unmet
  refine missing (List.ne_nil_of_mem (List.mem_append_left _ (List.mem_map_of_mem (a := place) ?_)))
  simp [listed, one, unmet]

/-- Whatever arguments are read, they end with settings that the grammar admits, and every
place that takes one argument is filled. -/
theorem parse_sound (arguments : List String) : Gives (fun p => p.Sound g ∧
    ∀ place ∈ g.places, place.arity = .one → place.name ∈ p.met) (g.parse arguments) := by
  refine .bind (tokens_known arguments) fun tokens known => ?_
  have start : Progress.Sound g { places := g.places } := ⟨nofun, fun _ member => member, nofun⟩
  refine .bind (walk_sound _ start known) fun q kept => fun p done => ?_
  obtain ⟨rfl, met⟩ := met_of_complete done
  exact ⟨kept, met⟩

end Grammar

/-! ## Kinds of settings -/

/-- The settings that a value comes to, or what is left when it has none. -/
inductive Reading.Yields : Reading → Setting → Prop
  | text (s : String) : Reading.text.Yields (.text s)
  | whole (n : Int) : Reading.whole.Yields (.whole n)
  | choice {choices : List String} {s : String} (known : s ∈ choices) :
      (Reading.choice choices).Yields (.text s)
  | void (r : Reading) : r.Yields .void

theorem Grammar.yields_of_read {g : Grammar} {title given : String} {r : Reading}
    {setting : Setting} (read : g.read title r given = .ok setting) : r.Yields setting := by
  unfold Grammar.read at read
  split at read
  case h_1 =>
    obtain rfl := Except.ok.inj read
    exact .text given
  case h_2 =>
    split at read
    · obtain rfl := Except.ok.inj read
      exact .whole _
    · cases read
  case h_3 =>
    split_ifs at read with known
    · obtain rfl := Except.ok.inj read
      exact .choice (List.contains_iff_mem.mp known)
    · cases read

/-- What stands under the name of switches that all read the same is what they read. -/
theorem Grammar.Admits.fits {g : Grammar} {name : String} {setting : Setting} {r : Reading}
    (admitted : g.Admits name setting)
    (switches : ∀ s ∈ g.switches, s.name = name → s.effect = .store r)
    (places : ∀ place ∈ g.places, place.name ≠ name) : r.Yields setting := by
  cases admitted with
  | value listed stores read =>
      obtain rfl := Effect.store.inj (stores.symm.trans (switches _ listed rfl))
      exact yields_of_read read
  | dashed => exact .void r
  | count listed counts => cases counts.symm.trans (switches _ listed rfl)
  | on listed turns => cases turns.symm.trans (switches _ listed rfl)
  | argument listed | emptied listed | command listed => exact absurd rfl (places _ listed)

/-! ## The level of the log -/

/-- The level that a command line asks for is the name of one. -/
theorem mem_levels_of_admits {name : String}
    (admitted : mainGrammar.Admits "log_level" (.text name)) :
    name ∈ Log.Level.all.map (·.name) := by
  have fits : (Reading.choice (Log.Level.all.map (·.name))).Yields (.text name) :=
    admitted.fits (by simp [mainGrammar, helpSwitch]) (by simp [mainGrammar])
  cases fits with
  | choice known => exact known

/-- The wish for a level is read by the grammar of the program. -/
theorem wish_of_parse {arguments : List String} {environment : Option String}
    {invocation : Invocation} (parsed : Invocation.parse arguments environment = .ok invocation) :
    ∃ p, mainGrammar.parse arguments = .ok p ∧ invocation.wish =
      ⟨p.text? "log_level", p.count "verbose", p.count "quiet", environment⟩ := by
  obtain ⟨p, read, parsed⟩ := bind_eq_ok.mp parsed
  refine ⟨p, read, ?_⟩
  have closed (request : Request) (extras : List String)
      (made : (if extras ≠ [] then
          mainGrammar.stop ("unrecognized arguments: " ++ " ".intercalate extras)
        else .ok ⟨⟨p.text? "log_level", p.count "verbose", p.count "quiet", environment⟩,
          request⟩ : Except Stop Invocation) = .ok invocation) :
      invocation.wish = ⟨p.text? "log_level", p.count "verbose", p.count "quiet", environment⟩ := by
    split_ifs at made
    · cases made
    · cases made
      rfl
  dsimp only at parsed
  split at parsed
  · obtain ⟨⟨request, extras⟩, -, made⟩ := bind_eq_ok.mp parsed
    exact closed request _ made
  · exact closed .none _ parsed

/-- No wish that was read from a command line is refused. -/
theorem ofWish_found {arguments : List String} {environment : Option String}
    {invocation : Invocation} (parsed : Invocation.parse arguments environment = .ok invocation) :
    ∃ level, Log.Level.ofWish invocation.wish = .ok level := by
  obtain ⟨p, read, wish⟩ := wish_of_parse parsed
  rw [wish]
  unfold Log.Level.ofWish
  split
  case h_2 => exact ⟨_, rfl⟩
  case h_1 name asked =>
    have given : p.text? "log_level" = some name := (Option.filter_eq_some_iff.mp asked).1
    have found : p.find? "log_level" = some (.text name) := by
      unfold Progress.text? at given
      split at given
      · obtain rfl := Option.some.inj given
        assumption
      · cases given
    have admitted := (Grammar.parse_sound arguments p read).1.admits_of_find? found
    obtain ⟨level, -, rfl⟩ := List.mem_map.mp (mem_levels_of_admits admitted)
    exact ⟨level, by rw [Log.Level.ofText?_name]⟩

end Command

end Darkroom
