/-
# Darkroom.Proofs.Complaints -- what is wrong with a request itself

A `Complaint` is about the operation or the options of a request and about nothing
else.  `Applies` says when there is cause for one, each by itself, and `rank` in which
order they are looked for; `Raised` is the first that applies, among options whose
numbers are numbers.

`screen` is what a request goes through before its source is looked at.  It fails with
a complaint exactly when that is raised (`screen_complains`), one lemma for each of its
three parts, and nothing after it complains (`quiet_after_screen`).  So one and the same
complaint is made whatever the source and the marks are (`reply_complains`).
-/
import Darkroom.Proofs.Refusals

namespace Darkroom

set_option autoImplicit false

open Outcome

/-- What can be wrong with the operation and the options of a request. -/
inductive Complaint
  /-- A side is negative. -/
  | sides
  /-- The quality is not within 0 and 100. -/
  | quality
  /-- A format is named that is none of the five. -/
  | format (given : Value)
  /-- The operation is none of the five. -/
  | operation
  /-- The degree is none of the three. -/
  | degree
  /-- The axis is neither of the two. -/
  | axis

/-! ## Cause for complaint -/

namespace Value

def IsNumber (v : Value) : Prop := ∃ n, v.number? = some n

def IsNegative (v : Value) : Prop := ∃ n, v.number? = some n ∧ n.lt (.int 0) = true

/-- A number, but not within 0 and 100. -/
def IsOffScale (v : Value) : Prop :=
  ∃ n, v.number? = some n ∧ ((Number.int 0).le n && n.le (.int 100)) = false

/-- A list or a record, by which nothing can be looked up. -/
def isCollection : Value → Bool
  | .list _ | .record _ => true
  | _ => false

end Value

/-- The numbers among the options are numbers. -/
structure Options.Numeric (o : Options) : Prop where
  width : o.width.IsNumber
  height : o.height.IsNumber
  quality : o.quality.IsNumber

/-- A fault that is about the request: a complaint, or that the format it names is none. -/
def Fault.IsAbout (o : Options) (fault : Fault) : Prop :=
  fault.isComplaint = true ∨ fault.kind = .format ∧ ∃ given, o.format = .named given

namespace Complaint

variable {operation : Value} {o : Options} {c c' : Complaint} {fault : Fault}

/-- How the complaint is worded. -/
def wording (operation : Value) (o : Options) : Complaint → Fault
  | .sides => .rejected (.negativeSides o.width o.height)
  | .quality => .rejected (.qualityRange o.quality)
  | .format given => .unsupportedFormat given
  | .operation => .rejected (.noStep operation)
  | .degree => .unsupportedDegree o.degree
  | .axis => .unsupportedAxis o.position

/-- There is cause for the complaint. -/
def Applies (operation : Value) (o : Options) : Complaint → Prop
  | .sides => o.width.IsNegative ∨ o.height.IsNegative
  | .quality => o.quality.IsOffScale
  | .format given => o.format = .named given ∧ ∀ f, Format.nameKey given.plain ∉ Format.names f
  | .operation => operation.isCollection = false ∧
      ∀ known : Operation, operation ≠ .text known.name
  | .degree => operation = .text Operation.rotate.name ∧
      ∀ n, o.degree.number? = some n → ∀ turn ∈ [90, 180, 270], n.same (.int turn) = false
  | .axis => operation = .text Operation.flip.name ∧
      o.position ≠ .text "h" ∧ o.position ≠ .text "v"

/-- The order in which cause is looked for.  The last three exclude one another. -/
def rank : Complaint → Nat
  | .sides => 0
  | .quality => 1
  | .format _ => 2
  | .operation | .degree | .axis => 3

/-- What is looked at on the way to the complaint can be compared with numbers. -/
def Legible (o : Options) : Complaint → Prop
  | .sides => o.width.IsNumber
  | _ => o.Numeric

/-- The first complaint that there is cause for. -/
structure Raised (operation : Value) (o : Options) (c : Complaint) : Prop where
  applies : c.Applies operation o
  legible : c.Legible o
  first : ∀ earlier : Complaint, earlier.rank < c.rank → ¬earlier.Applies operation o

theorem wording_injective (same : c.wording operation o = c'.wording operation o) : c = c' := by
  cases c <;> cases c' <;> simp_all [wording]

/-- Where there is cause for a complaint, one is raised, and no later one. -/
theorem raised_of_applies (numeric : o.Numeric) (applies : c.Applies operation o) :
    ∃ c', Raised operation o c' ∧ c'.rank ≤ c.rank := by
  induction n : c.rank using Nat.strong_induction_on generalizing c with
  | _ n ih =>
    subst n
    by_cases earlier : ∃ e : Complaint, e.rank < c.rank ∧ e.Applies operation o
    · obtain ⟨e, before, applies⟩ := earlier
      obtain ⟨c', raised, bound⟩ := ih e.rank before applies rfl
      exact ⟨c', raised, bound.trans before.le⟩
    · have legible : c.Legible o := by
        cases c
        case sides => exact numeric.width
        all_goals exact numeric
      exact ⟨c, ⟨applies, legible, fun e before holds => earlier ⟨e, before, holds⟩⟩, le_rfl⟩

end Complaint

/-! ## The options -/

theorem Format.ofName_eq_error {given : Value} {fault : Fault} : ofName given = .error fault ↔
    (∀ f, nameKey given.plain ∉ names f) ∧ .unsupportedFormat given = fault := by
  have unknown : ofKey? (nameKey given.plain) = none ↔
      ∀ f, nameKey given.plain ∉ names f := by
    simp only [ofKey?, List.find?_eq_none, List.contains_iff_mem]
    exact ⟨fun none f => none f (by cases f <;> decide), fun none f _ => none f⟩
  rw [← unknown, ofName]
  split <;> simp [*]

namespace Options

open Complaint (Applies)

variable {operation : Value} {o : Options} {fault : Fault}

theorem Numeric.validate (numeric : o.Numeric) (nonneg : ¬Applies operation o .sides)
    (onScale : ¬Applies operation o .quality) : o.validate = .ok () := by
  obtain ⟨⟨w, width⟩, ⟨h, height⟩, ⟨q, scale⟩⟩ := numeric
  have wide : ¬w.lt (.int 0) = true := fun negative => nonneg (.inl ⟨w, width, negative⟩)
  have tall : ¬h.lt (.int 0) = true := fun negative => nonneg (.inr ⟨h, height, negative⟩)
  have within : ((Number.int 0).le q && q.le (.int 100)) = true :=
    Bool.not_eq_false _ ▸ fun off => onScale ⟨q, scale, off⟩
  simp only [Options.validate, Value.toNumber_of_number? width, Value.toNumber_of_number? height,
    Value.toNumber_of_number? scale, ok_bind, if_neg wide, if_neg tall, if_pos within, pure_eq]

theorem validate_negative (number : o.width.IsNumber) (negative : Applies operation o .sides) :
    o.validate = .error (Complaint.sides.wording operation o) := by
  obtain ⟨w, width⟩ := number
  by_cases wide : w.lt (.int 0) = true
  · simp only [validate, Value.toNumber_of_number? width, ok_bind, if_pos wide, error_bind,
      Complaint.wording]
  · rcases negative with ⟨n, same, negative⟩ | ⟨h, height, tall⟩
    · obtain rfl := Option.some.inj (width.symm.trans same)
      exact absurd negative wide
    · simp only [validate, Value.toNumber_of_number? width, Value.toNumber_of_number? height,
        ok_bind, if_neg wide, if_pos tall, error_bind, Complaint.wording]

theorem Numeric.validate_offScale (numeric : o.Numeric) (nonneg : ¬Applies operation o .sides)
    (offScale : Applies operation o .quality) :
    o.validate = .error (Complaint.quality.wording operation o) := by
  obtain ⟨⟨w, width⟩, ⟨h, height⟩, -⟩ := numeric
  obtain ⟨q, scale, off⟩ := offScale
  have wide : ¬w.lt (.int 0) = true := fun negative => nonneg (.inl ⟨w, width, negative⟩)
  have tall : ¬h.lt (.int 0) = true := fun negative => nonneg (.inr ⟨h, height, negative⟩)
  simp only [Options.validate, Value.toNumber_of_number? width, Value.toNumber_of_number? height,
    Value.toNumber_of_number? scale, ok_bind, if_neg wide, if_neg tall, off, Bool.false_eq_true,
    if_false, Complaint.wording]

/-- What should be a number is none, before a side is found negative. -/
theorem validate_illegible (illegible : ¬o.Numeric)
    (nonneg : ¬(o.width.IsNumber ∧ Applies operation o .sides)) :
    o.validate = .error .wrongType := by
  unfold validate
  cases width : o.width.number? with
  | none => simp only [Value.toNumber, width, error_bind]
  | some w =>
      have wide : ¬w.lt (.int 0) = true := fun negative =>
        nonneg ⟨⟨w, width⟩, .inl ⟨w, width, negative⟩⟩
      cases height : o.height.number? with
      | none => simp only [Value.toNumber, width, height, ok_bind, if_neg wide, error_bind]
      | some h =>
          have tall : ¬h.lt (.int 0) = true := fun negative =>
            nonneg ⟨⟨w, width⟩, .inr ⟨h, height, negative⟩⟩
          have scale : o.quality.number? = none := by
            refine Option.eq_none_iff_forall_ne_some.mpr fun q scale => illegible ?_
            exact ⟨⟨w, width⟩, ⟨h, height⟩, ⟨q, scale⟩⟩
          simp only [Value.toNumber, width, height, scale, ok_bind, if_neg wide, if_neg tall,
            error_bind]

theorem requestedFormat_eq_error : o.requestedFormat = .error fault ↔
    ∃ given, Applies operation o (.format given) ∧
      (Complaint.format given).wording operation o = fault := by
  unfold requestedFormat Applies Complaint.wording
  cases format : o.format with
  | unset | format f => simp
  | named given => simp [bind_eq_error, Format.ofName_eq_error]

end Options

/-! ## The step -/

namespace Step

open Complaint (Applies)

variable {operation : Value} {o : Options} {fault : Fault}

theorem operationOf?_eq_some {known : Operation} :
    operationOf? operation = some known ↔ operation = .text known.name := by
  cases operation
  case text name =>
    rw [operationOf?, Value.text.injEq]
    constructor
    · intro found
      exact (beq_iff_eq.mp (List.find?_some (p := fun o : Operation => o.name == name) found)).symm
    · rintro rfl
      cases known <;> decide +kernel
  all_goals simp [operationOf?]

theorem build_unnamed (unknown : ∀ known : Operation, operation ≠ .text known.name) :
    build operation o =
      .error (if operation.isCollection then .wrongType else .rejected (.noStep operation)) := by
  have unnamed : operationOf? operation = none :=
    Option.eq_none_iff_forall_ne_some.mpr fun known named =>
      unknown known (operationOf?_eq_some.mp named)
  unfold build
  rw [unnamed]
  cases operation <;> rfl

theorem rotation_eq_error {degree : Value} : rotation degree = .error fault ↔
    (∀ n, degree.number? = some n → ∀ turn ∈ [90, 180, 270], n.same (.int turn) = false) ∧
      .unsupportedDegree degree = fault := by
  unfold rotation turnOf?
  cases degree.number? with
  | none => simp
  | some n =>
      cases quarter : n.same (.int 90) <;> cases half : n.same (.int 180) <;>
        cases three : n.same (.int 270) <;> simp [quarter, half, three]

theorem reflection_eq_error {axis : Value} : reflection axis = .error fault ↔
    (axis ≠ .text "h" ∧ axis ≠ .text "v") ∧ .unsupportedAxis axis = fault := by
  unfold reflection mirrorOf?
  split <;> split at * <;> simp_all

/-- The last three complaints are those that the building of the step makes; else it only
fails for an operation that cannot be looked up. -/
theorem build_eq_error : build operation o = .error fault ↔
    (operation.isCollection = true ∧ .wrongType = fault) ∨
      ∃ c : Complaint, c.rank = 3 ∧ Applies operation o c ∧ c.wording operation o = fault := by
  constructor
  · intro failed
    by_cases named : ∃ known : Operation, operation = .text known.name
    · obtain ⟨known, named⟩ := named
      rw [named, build_name] at failed
      cases known
      case resize | thumbnail | fit => cases failed
      case rotate =>
        obtain ⟨other, worded⟩ := rotation_eq_error.mp failed
        exact .inr ⟨.degree, rfl, ⟨named, other⟩, worded⟩
      case flip =>
        obtain ⟨other, worded⟩ := reflection_eq_error.mp failed
        exact .inr ⟨.axis, rfl, ⟨named, other⟩, worded⟩
    · have unknown := not_exists.mp named
      rw [build_unnamed unknown] at failed
      cases collection : operation.isCollection with
      | true =>
          rw [collection, if_pos rfl] at failed
          exact .inl ⟨rfl, Except.error.inj failed⟩
      | false =>
          rw [collection, if_neg (by simp)] at failed
          exact .inr ⟨.operation, rfl, ⟨collection, unknown⟩, Except.error.inj failed⟩
  · rintro (⟨collection, rfl⟩ | ⟨c, late, applies, rfl⟩)
    · cases operation
      case list | record => rfl
      all_goals cases collection
    · cases c
      case sides | quality | format => cases late
      case operation =>
        obtain ⟨plain, unknown⟩ := applies
        rw [build_unnamed unknown, plain]
        rfl
      case degree =>
        obtain ⟨rfl, other⟩ := applies
        exact (build_name .rotate o).trans (rotation_eq_error.mpr ⟨other, rfl⟩)
      case axis =>
        obtain ⟨rfl, other⟩ := applies
        exact (build_name .flip o).trans (reflection_eq_error.mpr ⟨other, rfl⟩)

end Step

/-! ## The screen -/

namespace Engine

open Complaint (Applies Raised)

variable {operation : Value} {o : Options} {c : Complaint} {fault : Fault}

/-- What a request goes through before its source is looked at. -/
def screen (operation : Value) (o : Options) : Outcome (Option Format × Step) := do
  o.validate
  let requested ← o.requestedFormat
  return (requested, ← Step.build operation o)

theorem screen_of_raised (raised : Raised operation o c) :
    screen operation o = .error (c.wording operation o) := by
  obtain ⟨applies, legible, first⟩ := raised
  -- Past the numbers, nothing is left to complain of them.
  have valid (late : 1 < c.rank) (numeric : o.Numeric) : o.validate = .ok () :=
    numeric.validate (first .sides (show 0 < c.rank by omega)) (first .quality late)
  cases c
  case sides => rw [screen, Options.validate_negative legible applies, error_bind]
  case quality =>
    rw [screen, legible.validate_offScale (first .sides (by decide)) applies, error_bind]
  case format given =>
    have unknown := Options.requestedFormat_eq_error.mpr ⟨given, applies, rfl⟩
    rw [screen, valid (show 1 < 2 by decide) legible, ok_bind, unknown, error_bind]
  case operation | degree | axis =>
    obtain ⟨requested, asked⟩ : ∃ requested, o.requestedFormat = .ok requested := by
      cases asked : o.requestedFormat with
      | ok requested => exact ⟨requested, rfl⟩
      | error other =>
          obtain ⟨given, unknown, -⟩ := Options.requestedFormat_eq_error.mp asked
          exact absurd unknown (first (.format given) (show 2 < 3 by decide))
    have refused := Step.build_eq_error.mpr (.inr ⟨_, rfl, applies, rfl⟩)
    rw [screen, valid (by decide) legible, ok_bind, asked, ok_bind, refused, error_bind]

/-- The screen fails with the complaint that is raised, or for something of the wrong type. -/
theorem screen_fault (failed : screen operation o = .error fault) :
    fault = .wrongType ∨ ∃ c, Raised operation o c ∧ c.wording operation o = fault := by
  by_cases negative : o.width.IsNumber ∧ Applies operation o .sides
  · have raised : Raised operation o .sides := ⟨negative.2, negative.1, nofun⟩
    exact .inr ⟨_, raised, Except.error.inj ((screen_of_raised raised).symm.trans failed)⟩
  by_cases numeric : o.Numeric
  case neg =>
    rw [screen, Options.validate_illegible numeric negative] at failed
    exact .inl (Except.error.inj failed).symm
  have nonneg : ¬Applies operation o .sides := fun applies => negative ⟨numeric.width, applies⟩
  by_cases offScale : Applies operation o .quality
  · have raised : Raised operation o .quality := by
      refine ⟨offScale, numeric, fun earlier before => ?_⟩
      cases earlier
      case sides => exact nonneg
      all_goals simp [Complaint.rank] at before
    exact .inr ⟨_, raised, Except.error.inj ((screen_of_raised raised).symm.trans failed)⟩
  rw [screen, numeric.validate nonneg offScale, ok_bind] at failed
  rcases bind_eq_error.mp failed with unknown | ⟨requested, asked, failed⟩
  · obtain ⟨given, applies, worded⟩ := Options.requestedFormat_eq_error.mp unknown
    refine .inr ⟨.format given, ⟨applies, numeric, fun earlier before => ?_⟩, worded⟩
    cases earlier
    case sides => exact nonneg
    case quality => exact offScale
    all_goals simp [Complaint.rank] at before
  · have refused : Step.build operation o = .error fault :=
      (bind_eq_error.mp failed).resolve_right (by simp)
    rcases Step.build_eq_error.mp refused with ⟨-, wrong⟩ | ⟨c, late, applies, worded⟩
    · exact .inl wrong.symm
    · have known (given : Value) : ¬Applies operation o (.format given) := by
        intro unknown
        have other := Options.requestedFormat_eq_error.mpr ⟨given, unknown, rfl⟩
        cases other.symm.trans asked
      refine .inr ⟨c, ⟨applies, ?_, fun earlier before => ?_⟩, worded⟩
      · cases c <;> first | exact numeric | cases late
      · rw [late] at before
        cases earlier
        case sides => exact nonneg
        case quality => exact offScale
        case format given => exact known given
        all_goals simp [Complaint.rank] at before

/-! ## After the screen -/

section

variable {given : Option Marks} {shelf : Shelf} {look : Lookup} {source : Opened}

/-- The source is looked at past the screen only. -/
theorem prepare_eq_screen : (prepare source operation o).outcome = (do
    let (requested, step) ← screen operation o
    let f ← outputFormat source requested
    if f = .gif then (prepareAnimation source step o).outcome
    else (prepareStill source step o f).outcome) := by
  rw [prepare_outcome, screen]
  simp only [bind_assoc, pure_eq, ok_bind]

theorem reply_of_screened (failed : screen operation o = .error fault) :
    reply given shelf look source operation o = .error fault := by
  refine reply_of_fault ?_
  rw [prepare_eq_screen, failed, error_bind]

/-- Nothing past the screen is about the request. -/
theorem quiet_after_screen {requested : Option Format} {step : Step}
    (screened : screen operation o = .ok (requested, step)) :
    Only (¬·.IsAbout o) (reply given shelf look source operation o) := by
  have aside {α : Type} {ks : Fault.Kinds} {x : Outcome α} (known : Within ks x)
      (other : ks.contains .format = false) : Only (¬·.IsAbout o) x := by
    rintro fault failed (complaint | ⟨format, -⟩)
    · rw [(known fault failed).2] at complaint
      cases complaint
    · have listed : fault.kind ∈ ks := (known fault failed).1
      rw [format, ← List.contains_iff_mem, other] at listed
      cases listed
  have settled : Only (¬·.IsAbout o) (outputFormat source requested) := by
    rintro fault failed (complaint | ⟨-, given, named⟩)
    · rw [(within_outputFormat source requested fault failed).2] at complaint
      cases complaint
    · -- A format that is named is the format of the answer.
      obtain ⟨-, -, rest⟩ := bind_eq_ok.mp screened
      obtain ⟨_, asked, rest⟩ := bind_eq_ok.mp rest
      obtain ⟨_, -, ⟨⟩⟩ := bind_eq_ok.mp rest
      rw [Options.requestedFormat, named] at asked
      obtain ⟨f, -, ⟨⟩⟩ := bind_eq_ok.mp asked
      cases failed
  rw [reply_eq, prepare_eq_screen, screened, ok_bind]
  refine .bind (.bind settled fun f => .ite ?_ ?_) fun p => ?_
  · exact aside (within_prepareAnimation source step o) rfl
  · exact aside (within_prepareStill source step o f) rfl
  · exact aside (within_completed given shelf look p) rfl

theorem isAbout_of_raised (raised : Raised operation o c) : (c.wording operation o).IsAbout o := by
  cases c
  case format given => exact .inr ⟨rfl, given, raised.applies.1⟩
  all_goals exact .inl rfl

/-- A request is refused for something about itself exactly where a complaint is raised. -/
theorem complains_iff : fault.IsAbout o ∧ reply given shelf look source operation o = .error fault ↔
    ∃ c, Raised operation o c ∧ c.wording operation o = fault := by
  constructor
  · rintro ⟨about, failed⟩
    cases screened : screen operation o with
    | ok found => exact absurd about (quiet_after_screen screened fault failed)
    | error other =>
        obtain rfl := Except.error.inj ((reply_of_screened screened).symm.trans failed)
        rcases screen_fault screened with rfl | raised
        · rcases about with complaint | ⟨format, -⟩
          · cases complaint
          · cases format
        · exact raised
  · rintro ⟨c, raised, rfl⟩
    exact ⟨isAbout_of_raised raised, reply_of_screened (screen_of_raised raised)⟩

end

/-- A request is refused for something about itself whatever its source and the marks are,
and then for the first thing that there is cause to complain of. -/
theorem complaints_come_first (operation : Value) (o : Options) :
    (∀ fault given shelf look source,
      fault.IsAbout o ∧ reply given shelf look source operation o = .error fault ↔
        ∃ c, Raised operation o c ∧ c.wording operation o = fault) ∧
    (∀ fault given shelf look source given' shelf' look' source',
      fault.IsAbout o ∧ reply given shelf look source operation o = .error fault ↔
        fault.IsAbout o ∧ reply given' shelf' look' source' operation o = .error fault) ∧
    (∀ c c', Raised operation o c → Raised operation o c' → c = c') ∧
    (o.Numeric → ∀ c, Applies operation o c → ∃ c', Raised operation o c' ∧ c'.rank ≤ c.rank) ∧
    ((∀ c, ¬Applies operation o c) → ∀ fault given shelf look source,
      fault.IsAbout o → reply given shelf look source operation o ≠ .error fault) := by
  refine ⟨fun _ _ _ _ _ => complains_iff, fun _ _ _ _ _ _ _ _ _ => ?_, fun c c' one other => ?_,
    fun numeric c => Complaint.raised_of_applies numeric, fun sound _ _ _ _ _ about failed => ?_⟩
  · rw [complains_iff, complains_iff]
  · have same := (screen_of_raised one).symm.trans (screen_of_raised other)
    exact Complaint.wording_injective (Except.error.inj same)
  · obtain ⟨c, raised, -⟩ := complains_iff.mp ⟨about, failed⟩
    exact sound c raised.applies

/-- The side comes before the quality and the degree, and nothing was read. -/
example : reply none {} (Disk.read {}) none (.text "rotate")
    { width := .number (.int (-1)), quality := .number (.int 101) } =
      .error (.rejected (.negativeSides (.number (.int (-1))) (.number (.int 0)))) := rfl

end Engine

end Darkroom
