/-
# Darkroom.Proofs.Settings -- what a command line sets

What was read of a command line is a list of settings under names.  `Progress.value` is
the value under a name, or a default; `Progress.Names` says that a text stands there.
This is the whole of what a command is told, and what it does is stated by it.

A command line for an operation (`AsksFor`) makes a request, with each option from the
setting of its name (`OptionsFor`, `options_for`).  That no setting is of another kind
than its option, and so none is passed over, is what the grammar of the operation settles
(`operation_kinds`, `Grammar.Admits.fits`).
-/
import Darkroom.Command
import Darkroom.Proofs.Parsing

namespace Darkroom.Command

set_option autoImplicit false

open Outcome

/-! ## Values -/

/-- The value that a setting stands for; one without a value is a list without items. -/
def Setting.value : Setting → Value
  | .text s => .text s
  | .whole n => .number (.int n)
  | .count n => .number (.int n)
  | .on => .flag true
  | .command name _ => .text name
  | .void => .list []

namespace Progress

/-- The value under a name, or a default where nothing was set. -/
def value (p : Progress) (name : String) (default : Value) : Value :=
  ((p.find? name).map Setting.value).getD default

/-- A text was set under a name, and it is not empty. -/
def Names (p : Progress) (name text : String) : Prop := p.find? name = some (.text text) ∧ text ≠ ""

/-- The text under a name, or another where none was set. -/
def NamesOr (p : Progress) (name standard text : String) : Prop :=
  p.Names name text ∨ (∀ other, ¬p.Names name other) ∧ text = standard

variable {p : Progress} {name text : String}

theorem text?_eq_some : p.text? name = some text ↔ p.find? name = some (.text text) := by
  unfold text?
  split <;> simp_all

theorem givenPath_text? : givenPath (p.text? name) = some text ↔ p.Names name text := by
  rw [givenPath, Option.filter_eq_some_iff, text?_eq_some, Names]
  simp

theorem givenPath_eq_none : givenPath (p.text? name) = none ↔ ∀ text, ¬p.Names name text := by
  simp only [Option.eq_none_iff_forall_ne_some, ← givenPath_text?]

theorem names_of_given {standard : String} (given : givenPath (p.text? name) ≠ none) :
    p.Names name ((givenPath (p.text? name)).getD standard) := by
  obtain ⟨text, found⟩ := Option.ne_none_iff_exists'.mp given
  rw [found]
  exact givenPath_text?.mp found

theorem givenPath_getD {standard : String} :
    (givenPath (p.text? name)).getD standard = text ↔ p.NamesOr name standard text := by
  unfold NamesOr
  cases given : givenPath (p.text? name) with
  | none =>
      have unnamed := givenPath_eq_none.mp given
      simp [unnamed, eq_comm]
  | some other =>
      have named := givenPath_text?.mp given
      rw [← givenPath_text?, given, Option.getD_some, Option.some.injEq]
      exact ⟨.inl, fun either => either.resolve_right fun none_ => none_.1 _ named⟩

end Progress

/-! ## Commands -/

/-- A command line asks for an operation, and leaves nothing over.  What was set for it. -/
def AsksFor (arguments : List String) (o : Operation) (p : Progress) : Prop :=
  ∃ m rest, mainGrammar.parse arguments = .ok m ∧ m.find? "command" = some (.command o.name rest) ∧
    (operationGrammar o).parse rest = .ok p ∧ m.extras = [] ∧ p.extras = []

/-- A command line asks for a report on a colour. -/
def AsksColor (arguments : List String) (environment source hex : Option String) : Prop :=
  ∃ wish, Invocation.parse arguments environment = .ok ⟨wish, .color source hex⟩

variable {arguments : List String} {environment : Option String} {o : Operation} {p : Progress}
  {format : Option Format}

theorem ofName?_eq_some {name : String} : Operation.ofName? name = some o ↔ name = o.name := by
  constructor
  · intro found
    have named := List.find?_some (p := fun o : Operation => o.name == name) found
    exact (beq_iff_eq.mp named).symm
  · rintro rfl
    cases o <;> rfl

/-- Only a command line that asks for an operation is read as a job, and as that of what
was set. -/
theorem parse_job_iff {j : Job} :
    (∃ wish, Invocation.parse arguments environment = .ok ⟨wish, .job j⟩) ↔
      ∃ o p, AsksFor arguments o p ∧ j = jobOf o p := by
  constructor
  · rintro ⟨wish, parsed⟩
    obtain ⟨m, main, parsed⟩ := bind_eq_ok.mp parsed
    dsimp only at parsed
    split at parsed
    case h_1 name rest command =>
      obtain ⟨⟨request, extras⟩, asked, made⟩ := bind_eq_ok.mp parsed
      dsimp only at made
      split_ifs at made with none_
      · cases made
      obtain ⟨-, rfl⟩ := Invocation.mk.inj (Except.ok.inj made)
      obtain ⟨here, there⟩ := List.append_eq_nil_iff.mp (not_not.mp none_)
      unfold requestOf at asked
      split at asked
      case h_1 o known =>
        obtain ⟨p, read, made⟩ := bind_eq_ok.mp asked
        obtain ⟨same, rfl⟩ := Prod.mk.inj (Except.ok.inj made)
        obtain rfl := ofName?_eq_some.mp known
        exact ⟨o, p, ⟨m, rest, main, command, read, here, there⟩, (Request.job.inj same).symm⟩
      case h_2 =>
        obtain ⟨p, -, made⟩ := bind_eq_ok.mp asked
        cases made
    case h_2 =>
      rw [ok_bind] at parsed
      dsimp only at parsed
      split_ifs at parsed
      · cases parsed
      · cases parsed
  · rintro ⟨o, p, ⟨m, rest, main, command, read, here, there⟩, rfl⟩
    refine ⟨⟨m.text? "log_level", m.count "verbose", m.count "quiet", environment⟩, ?_⟩
    simp only [Invocation.parse, main, ok_bind, command, requestOf, ofName?_eq_some.mpr rfl, read,
      pure_eq, here, there, List.append_nil, ne_eq, not_true, if_false]

/-- What an operation is told under each name. -/
def operationValues : List (String × Reading) :=
  [("format", .text), ("quality", .whole), ("watermark", .text), ("watermark_colored", .text),
    ("width", .whole), ("height", .whole), ("degree", .whole), ("position", .text)]

theorem AsksFor.sound (asks : AsksFor arguments o p) : p.Sound (operationGrammar o) := by
  obtain ⟨m, rest, -, -, read, -⟩ := asks
  exact (Grammar.parse_sound rest p read).1

theorem operation_switches (o : Operation) : ∀ entry ∈ operationValues,
    ∀ s ∈ (operationGrammar o).switches, s.name = entry.1 → s.effect = .store entry.2 := by
  cases o <;>
    simp [operationValues, operationGrammar, fileSwitches, operationSwitches, helpSwitch]

theorem operation_places (o : Operation) : ∀ entry ∈ operationValues,
    ∀ place ∈ (operationGrammar o).places, place.name ≠ entry.1 := by
  simp [operationValues, operationGrammar]

/-- Under the name of a value there is what is read for it. -/
theorem AsksFor.yields (asks : AsksFor arguments o p) {name : String} {r : Reading}
    (listed : (name, r) ∈ operationValues) {setting : Setting}
    (found : p.find? name = some setting) : r.Yields setting :=
  (asks.sound.admits_of_find? found).fits (operation_switches o _ listed)
    (operation_places o _ listed)

/-- A switch is on or was not met. -/
theorem AsksFor.on_upscale (asks : AsksFor arguments o p) {setting : Setting}
    (found : p.find? "upscale" = some setting) : setting = .on := by
  have switches : ∀ s ∈ (operationGrammar o).switches, s.name = "upscale" → s.effect = .turnOn := by
    cases o <;> simp [operationGrammar, fileSwitches, operationSwitches, helpSwitch]
  have places : ∀ place ∈ (operationGrammar o).places, place.name ≠ "upscale" := by
    simp [operationGrammar]
  generalize same : "upscale" = name at found switches places
  cases asks.sound.admits_of_find? found with
  | on => rfl
  | value listed stores | dashed listed stores => cases stores.symm.trans (switches _ listed rfl)
  | count listed counts => cases counts.symm.trans (switches _ listed rfl)
  | argument listed | emptied listed | command listed => exact absurd rfl (places _ listed)

/-- The two places of an operation are filled, each with a text or with nothing. -/
theorem AsksFor.filled (asks : AsksFor arguments o p) {name : String}
    (listed : name = "source" ∨ name = "output") :
    p.find? name = some .void ∨ ∃ text, p.find? name = some (.text text) := by
  have sound := asks.sound
  obtain ⟨m, rest, -, -, read, -⟩ := asks
  have places : ∀ place ∈ (operationGrammar o).places, place.arity = .one := by
    simp [operationGrammar]
  have switches : ∀ s ∈ (operationGrammar o).switches, s.name ≠ name := by
    rcases listed with rfl | rfl <;>
    cases o <;> simp [operationGrammar, fileSwitches, operationSwitches, helpSwitch]
  have place : (⟨name, .one⟩ : Place) ∈ (operationGrammar o).places := by
    rcases listed with rfl | rfl <;> simp [operationGrammar]
  have met : name ∈ p.met := (Grammar.parse_sound rest p read).2 _ place rfl
  cases found : p.find? name with
  | none =>
      rcases sound.met name met with set | ⟨other, listed, -, more⟩
      · exact absurd found set
      · exact absurd (places other listed) more
  | some setting =>
      cases sound.admits_of_find? found with
      | value known | dashed known | count known | on known => exact absurd rfl (switches _ known)
      | argument _ _ given => exact .inr ⟨given, rfl⟩
      | emptied => exact .inl rfl
      | command known commands => cases commands.symm.trans (places _ known)

/-! ## Options -/

/-- The options of a request are what was set under their names, each with its default. -/
structure OptionsFor (p : Progress) (format : Option Format) (options : Options) : Prop where
  width : options.width = p.value "width" (.number (.int 0))
  height : options.height = p.value "height" (.number (.int 0))
  upscale : options.upscale = p.value "upscale" (.flag false)
  format : options.format = (format.map .format).getD .unset
  quality : options.quality = p.value "quality" (.number (.int 95))
  degree : options.degree = p.value "degree" (.number (.int 0))
  position : options.position = p.value "position" (.text "")

/-- A number that was read, or nothing, is the value under its name. -/
theorem wholeValue (asks : AsksFor arguments o p) {name : String}
    (listed : (name, .whole) ∈ operationValues) (default : Int) :
    ((p.valueOr name (p.whole? name) default).map fun n => Value.number (.int n)).getD (.list []) =
      p.value name (.number (.int default)) := by
  unfold Progress.valueOr Progress.whole? Progress.value
  cases found : p.find? name with
  | none => rfl
  | some setting =>
      cases asks.yields listed found with
      | whole | void => rfl

theorem textValue (asks : AsksFor arguments o p) {name : String}
    (listed : (name, .text) ∈ operationValues) (default : String) :
    ((p.valueOr name (p.text? name) default).map Value.text).getD (.list []) =
      p.value name (.text default) := by
  unfold Progress.valueOr Progress.text? Progress.value
  cases found : p.find? name with
  | none => rfl
  | some setting =>
      cases asks.yields listed found with
      | text | void => rfl

/-- The options of a job are those of what was set. -/
theorem options_for (asks : AsksFor arguments o p) (format : Option Format) :
    OptionsFor p format (optionsOf (jobOf o p) format) where
  width := wholeValue asks (by simp [operationValues]) 0
  height := wholeValue asks (by simp [operationValues]) 0
  upscale := by
    unfold Progress.value
    cases found : p.find? "upscale" with
    | none => simp [optionsOf, jobOf, Progress.isOn, found]
    | some setting =>
        obtain rfl := asks.on_upscale found
        simp [optionsOf, jobOf, Progress.isOn, found, Setting.value]
  format := by cases format <;> rfl
  quality := wholeValue asks (by simp [operationValues]) 95
  degree := wholeValue asks (by simp [operationValues]) 0
  position := textValue asks (by simp [operationValues]) ""

/-- The options are settled by what was set. -/
theorem OptionsFor.unique {options others : Options} (one : OptionsFor p format options)
    (other : OptionsFor p format others) : options = others := by
  obtain ⟨w, h, u, f, q, d, x⟩ := one
  obtain ⟨w', h', u', f', q', d', x'⟩ := other
  cases options
  cases others
  simp_all

/-- The source or the output of a job is the text in its place, if there is one. -/
theorem AsksFor.place (asks : AsksFor arguments o p) {name : String}
    (listed : name = "source" ∨ name = "output") {text : String} :
    p.valueOr name (p.text? name) "" = some text ↔ p.find? name = some (.text text) := by
  unfold Progress.valueOr Progress.text?
  rcases asks.filled listed with found | ⟨other, found⟩ <;> simp [found]

end Darkroom.Command
