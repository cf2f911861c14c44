/-
# Darkroom.Proofs.Request -- a request, taken apart

`Engine.reply` is what a request is answered with, the entries left out.  It is
settled by the options, the format of the answer and the step, in that order
(`prepare_of`); then a still picture and an animation follow one rule, `runsOn`:
where the step does not run the source is the answer if it can be, and
otherwise the step, or nothing, is done to every picture (`prepareStill_outcome`,
`prepareAnimation_outcome`).
-/
import Darkroom.Engine
import Darkroom.Proofs.Running

namespace Darkroom

set_option autoImplicit false

/-! ## Opening -/

/-- The tag of a format is read as that format. -/
theorem Container.format?_of_tag {c : Container} {f : Format} (tagged : c.tag = f.tag) :
    c.format? = some f := by
  rw [Container.format?, tagged]
  cases f <;> decide +kernel

/-- A file of one RGB picture is opened as that picture. -/
theorem Opened.still_single {r : Raster} (isRgb : r.mode = .rgb) (plain : r.hasAlpha = false)
    (f : Format) : (still (some (.single f.tag r))).outcome = .ok (r, f) := by
  have known : (Container.single f.tag r).format? = some f := Container.format?_of_tag rfl
  have made : r.normalized = .ok r := by
    rw [Raster.normalized, plain, if_neg (by simp), Raster.toRgb, if_pos isRgb]
  rw [Container.single] at known ⊢
  simp [still, container, known, made]

/-- A file with a first picture in a known format. -/
theorem Opened.still_eq_ok {source : Opened} {r : Raster} {f : Format}
    (decoded : source.still.outcome = .ok (r, f)) :
    ∃ (c : Container) (first : Frame) (rest : List Frame), source = some c ∧
      c.frames = first :: rest ∧ c.format? = some f ∧ first.picture.normalized = .ok r := by
  cases source with
  | none => simp [still, container] at decoded
  | some c =>
      cases frames : c.frames with
      | nil => simp [still, container, frames] at decoded
      | cons first rest =>
          cases known : c.format? with
          | none => simp [still, container, frames, known] at decoded
          | some format =>
              cases made : first.picture.normalized with
              | error fault => simp [still, container, frames, known, made] at decoded
              | ok picture =>
                  simp [still, container, frames, known, made] at decoded
                  obtain ⟨rfl, rfl⟩ := decoded
                  exact ⟨c, first, rest, rfl, frames, known, made⟩

/-- The picture that a file opens as is its first one, made RGB or RGBA. -/
theorem Opened.normalized_of_still {c : Container} {first : Frame} {rest : List Frame} {r : Raster}
    {f : Format} (frames : c.frames = first :: rest)
    (decoded : (Opened.still (some c)).outcome = .ok (r, f)) :
    first.picture.normalized = .ok r := by
  obtain ⟨_, _, _, same, frames', -, made⟩ := Opened.still_eq_ok decoded
  obtain rfl := Option.some.inj same
  obtain ⟨rfl, -⟩ := List.cons.inj (frames.symm.trans frames')
  exact made

namespace Step

variable {operation : Operation} {o : Options} {step : Step}

theorem build_name (operation : Operation) (o : Options) :
    build (.text operation.name) o = ofOperation operation o := by
  have known : Operation.ofName? operation.name = some operation := by
    cases operation <;> decide +kernel
  simp only [build, operationOf?, known]

theorem build_withFormat (operation : Value) (o : Options) (f : FormatChoice) :
    build operation (o.withFormat f) = build operation o := rfl

theorem rotation_eq_ok {degree : Value} (built : rotation degree = .ok step) :
    ∃ turn, step = .rotate degree turn := by
  unfold rotation at built
  split at built
  · exact ⟨_, (Except.ok.inj built).symm⟩
  · cases built

theorem reflection_eq_ok {axis : Value} (built : reflection axis = .ok step) :
    ∃ turn, step = .flip axis turn := by
  unfold reflection at built
  split at built
  · exact ⟨_, (Except.ok.inj built).symm⟩
  · cases built

theorem resamples_of_build (built : build (.text operation.name) o = .ok step) :
    step.resamples = operation.isResample := by
  rw [build_name] at built
  cases operation
  case resize | thumbnail | fit =>
    obtain rfl := Except.ok.inj built
    rfl
  case rotate =>
    obtain ⟨turn, rfl⟩ := rotation_eq_ok built
    rfl
  case flip =>
    obtain ⟨turn, rfl⟩ := reflection_eq_ok built
    rfl

/-- Every resample builds its step. -/
theorem built_of_isResample (resample : operation.isResample = true) (o : Options) :
    ∃ step, build (.text operation.name) o = .ok step ∧ step.resamples = true := by
  obtain ⟨step, built⟩ : ∃ step, build (.text operation.name) o = .ok step := by
    rw [build_name]
    cases operation <;> first | exact ⟨_, rfl⟩ | cases resample
  exact ⟨step, built, (resamples_of_build built).trans resample⟩

/-- A resample step has the sides of the request; all but fitting give them. -/
theorem sides_of_build (resample : operation.isResample = true)
    (built : build (.text operation.name) o = .ok step) :
    step.sides? = some (o.width, o.height) ∧ step.fills = decide (operation ≠ .fit) := by
  rw [build_name] at built
  cases operation <;> cases resample <;> obtain rfl := Except.ok.inj built <;> exact ⟨rfl, rfl⟩

end Step

namespace Engine

variable {given : Option Marks} {shelf : Shelf} {look : Lookup} {source : Opened}
  {operation : Value} {o : Options} {step : Step} {f sf : Format} {r : Raster} {c : Container}
  {first : Frame} {rest : List Frame}

/-! ## The answer -/

/-- What a request is answered with. -/
def reply (given : Option Marks) (shelf : Shelf) (look : Lookup) (source : Opened)
    (operation : Value) (o : Options) : Outcome Answer :=
  (transform given shelf look source operation o).1.outcome

theorem reply_eq : reply given shelf look source operation o = (do
    let p ← (prepare source operation o).outcome
    if p.needsMarks then (p.finish (some (← (marks given shelf look).outcome).1)).outcome
    else (p.finish none).outcome) := by
  unfold reply transform
  obtain ⟨outcome, entries⟩ := prepare source operation o
  cases outcome with
  | error fault => rfl
  | ok p =>
      obtain ⟨loaded, reports⟩ := marks given shelf look
      cases needs : p.needsMarks <;> cases loaded <;> simp [needs]

theorem reply_of_prepared {p : Prepared} (prepared : (prepare source operation o).outcome = .ok p)
    (plain : p.needsMarks = false) :
    reply given shelf look source operation o = (p.finish none).outcome := by
  rw [reply_eq, prepared, Outcome.ok_bind, plain]
  rfl

/-- A still picture that is not stamped is answered with its encoding. -/
theorem reply_of_still {picture : Raster} {quality : Value}
    (prepared : (prepare source operation o).outcome = .ok (.still picture f quality))
    (plain : (Prepared.still picture f quality).needsMarks = false) :
    reply given shelf look source operation o =
      (Encoding.ofPicture picture f quality none).outcome.map .encoded := by
  rw [reply_of_prepared prepared plain, Prepared.finish, Logged.outcome_bind]
  cases (Encoding.ofPicture picture f quality none).outcome <;> rfl

/-- An animation is answered with its encoding. -/
theorem reply_of_animation {a : Animation}
    (prepared : (prepare source operation o).outcome = .ok (.animation a)) :
    reply given shelf look source operation o = (Encoding.ofAnimation a).map .encoded := by
  rw [reply_of_prepared prepared rfl, Prepared.finish, Logged.outcome_bind, Logged.outcome_lift]
  cases Encoding.ofAnimation a <;> rfl

theorem prepared_of_reply {a : Answer}
    (answered : reply given shelf look source operation o = .ok a) :
    ∃ p m, (prepare source operation o).outcome = .ok p ∧ (p.finish m).outcome = .ok a := by
  rw [reply_eq] at answered
  obtain ⟨p, prepared, finished⟩ := Outcome.bind_eq_ok.mp answered
  split_ifs at finished
  · obtain ⟨m, -, finished⟩ := Outcome.bind_eq_ok.mp finished
    exact ⟨p, some m.1, prepared, finished⟩
  · exact ⟨p, none, prepared, finished⟩

theorem finish_eq_unchanged {p : Prepared} {m : Option Marks}
    (finished : (p.finish m).outcome = .ok .unchanged) : p = .unchanged := by
  cases p with
  | unchanged => rfl
  | still picture format quality =>
      rw [Prepared.finish, Logged.outcome_bind, Outcome.bind_eq_ok] at finished
      obtain ⟨e, -, impossible⟩ := finished
      cases impossible
  | animation a =>
      rw [Prepared.finish, Logged.outcome_bind, Outcome.bind_eq_ok] at finished
      obtain ⟨e, -, impossible⟩ := finished
      cases impossible

/-- A file that is answered was made of a picture or of an animation. -/
theorem finish_eq_encoded {p : Prepared} {m : Option Marks} {e : Encoding}
    (finished : (p.finish m).outcome = .ok (.encoded e)) :
    (∃ picture format quality, p = .still picture format quality ∧
      (Encoding.ofPicture picture format quality m).outcome = .ok e) ∨
    ∃ a, p = .animation a ∧ Encoding.ofAnimation a = .ok e := by
  cases p with
  | unchanged => cases finished
  | still picture format quality =>
      rw [Prepared.finish, Logged.outcome_bind, Outcome.bind_eq_ok] at finished
      obtain ⟨e, encoded, same⟩ := finished
      cases same
      exact .inl ⟨picture, format, quality, rfl, encoded⟩
  | animation a =>
      rw [Prepared.finish, Logged.outcome_bind, Logged.outcome_lift, Outcome.bind_eq_ok] at finished
      obtain ⟨e, encoded, same⟩ := finished
      cases same
      exact .inr ⟨a, rfl, encoded⟩

/-- Only what was prepared as unchanged is answered as unchanged. -/
theorem reply_unchanged_iff : reply given shelf look source operation o = .ok .unchanged ↔
    (prepare source operation o).outcome = .ok .unchanged := by
  constructor
  · intro answered
    obtain ⟨p, m, prepared, finished⟩ := prepared_of_reply answered
    rwa [finish_eq_unchanged finished] at prepared
  · intro prepared
    rw [reply_of_prepared prepared rfl]
    rfl

theorem reply_of_fault {fault : Fault}
    (prepared : (prepare source operation o).outcome = .error fault) :
    reply given shelf look source operation o = .error fault := by
  rw [reply_eq, prepared]
  rfl

/-! ## The two paths -/

/-- The format of the answer to a request. -/
def answerFormat (source : Opened) (o : Options) : Outcome Format := do
  outputFormat source (← o.requestedFormat)

theorem prepare_outcome : (prepare source operation o).outcome = (do
    o.validate
    let requested ← o.requestedFormat
    let step ← Step.build operation o
    let format ← outputFormat source requested
    if format = .gif then (prepareAnimation source step o).outcome
    else (prepareStill source step o format).outcome) := by
  simp [prepare]

/-- With the options and the format settled, the step is built and the format
picks the path. -/
theorem prepare_of (operation : Value) (valid : o.validate = .ok ())
    (found : answerFormat source o = .ok f) :
    (prepare source operation o).outcome = (do
      let step ← Step.build operation o
      if f = .gif then (prepareAnimation source step o).outcome
      else (prepareStill source step o f).outcome) := by
  obtain ⟨requested, asked, found⟩ := Outcome.bind_eq_ok.mp found
  simp only [prepare_outcome, valid, asked, found, Outcome.ok_bind]

theorem valid_of_prepare {p : Prepared}
    (prepared : (prepare source operation o).outcome = .ok p) : o.validate = .ok () := by
  rw [prepare_outcome] at prepared
  obtain ⟨⟨⟩, valid, -⟩ := Outcome.bind_eq_ok.mp prepared
  exact valid

theorem built_of_prepare {p : Prepared} (prepared : (prepare source operation o).outcome = .ok p) :
    ∃ step f, answerFormat source o = .ok f ∧ Step.build operation o = .ok step ∧
      (if f = .gif then (prepareAnimation source step o).outcome
      else (prepareStill source step o f).outcome) = .ok p := by
  rw [prepare_outcome] at prepared
  obtain ⟨-, -, prepared⟩ := Outcome.bind_eq_ok.mp prepared
  obtain ⟨requested, asked, prepared⟩ := Outcome.bind_eq_ok.mp prepared
  obtain ⟨step, built, prepared⟩ := Outcome.bind_eq_ok.mp prepared
  obtain ⟨f, found, prepared⟩ := Outcome.bind_eq_ok.mp prepared
  exact ⟨step, f, Outcome.bind_eq_ok.mpr ⟨requested, asked, found⟩, built, prepared⟩

theorem prepareStill_outcome (decoded : source.still.outcome = .ok (r, sf)) :
    (prepareStill source step o f).outcome = (do
      if ← step.runsOn o r then return .still (← step.run r) f o.quality
      else return if f = sf then .unchanged else .still r f o.quality) := by
  unfold prepareStill Step.runsOn
  simp only [Logged.outcome_bind, decoded, Outcome.ok_bind]
  cases step.resamples
  case false => simp
  case true =>
    cases Step.policyFactor o r with
    | error fault => simp
    | ok factor => cases runs : Scaling.runs factor o.upscale.truthy <;> simp [runs]

theorem animationStep_of_ne_fit {known : Operation} (notFit : known ≠ .fit)
    (built : Step.build (.text known.name) o = .ok step) : animationStep step = step := by
  rw [Step.build_name] at built
  cases known
  case fit => exact absurd rfl notFit
  case resize | thumbnail =>
    obtain rfl := Except.ok.inj built
    rfl
  case rotate =>
    obtain ⟨turn, rfl⟩ := Step.rotation_eq_ok built
    rfl
  case flip =>
    obtain ⟨turn, rfl⟩ := Step.reflection_eq_ok built
    rfl

theorem resamples_animationStep (step : Step) :
    (animationStep step).resamples = step.resamples := by
  cases step <;> rfl

/-- On an animation every resample gives the sides asked for. -/
theorem sides_animationStep {width height : Value} (given : step.sides? = some (width, height)) :
    (animationStep step).sides? = some (width, height) ∧ (animationStep step).fills = true := by
  cases step <;> cases given <;> exact ⟨rfl, rfl⟩

theorem prepareAnimation_outcome (frames : c.frames = first :: rest) :
    (prepareAnimation (some c) step o).outcome = (do
      if !(← step.runsOn o first.picture) && c.isAnimationFile then return .unchanged
      else
        let a ← (Animation.transformed c first (animationStep step) o step.resamples).outcome
        return .animation a) := by
  have opened : Opened.container (some c) = .ok c := rfl
  unfold prepareAnimation Animation.ofOpened Step.runsOn
  simp only [Logged.outcome_bind, Logged.outcome_lift, opened, Outcome.ok_bind, frames,
    resamples_animationStep, Bool.and_self]
  cases resampling : step.resamples
  case false => simp
  case true =>
    cases Step.policyFactor o first.picture with
    | error fault => simp
    | ok factor =>
        cases runs : Scaling.runs factor o.upscale.truthy <;>
          cases file : c.isAnimationFile <;>
            simp [runs, file, Animation.declines, resamples_animationStep, resampling]

/-- What a still picture becomes, where it is not passed through. -/
theorem prepareStill_runScaled (decoded : source.still.outcome = .ok (r, sf))
    (touched : (prepareStill source step o f).outcome ≠ .ok .unchanged) :
    (prepareStill source step o f).outcome =
      (step.runScaled o r).outcome.map fun p => .still p f o.quality := by
  rw [prepareStill_outcome decoded] at touched ⊢
  rw [Step.runScaled_outcome, Outcome.map_bind]
  cases decided : step.runsOn o r with
  | error fault => rfl
  | ok runs =>
      cases runs
      case false =>
        have other : f ≠ sf := by
          rintro rfl
          exact touched (by rw [decided]; simp)
        simp [other, Except.map]
      case true => cases step.run r <;> rfl

/-- Only a file with frames comes to anything. -/
theorem frames_of_prepareAnimation {p : Prepared}
    (prepared : (prepareAnimation source step o).outcome = .ok p) :
    ∃ (c : Container) (first : Frame) (rest : List Frame), source = some c ∧
      c.frames = first :: rest := by
  cases source with
  | none => simp [prepareAnimation, Animation.ofOpened, Opened.container] at prepared
  | some c =>
      cases frames : c.frames with
      | nil => simp [prepareAnimation, Animation.ofOpened, Opened.container, frames] at prepared
      | cons first rest => exact ⟨c, first, rest, rfl, frames⟩

/-- Where the file is not passed through its frames are transformed. -/
theorem prepareAnimation_transformed {runs : Bool} (frames : c.frames = first :: rest)
    (decided : step.runsOn o first.picture = .ok runs)
    (touched : (prepareAnimation (some c) step o).outcome ≠ .ok .unchanged) :
    (prepareAnimation (some c) step o).outcome =
      (Animation.transformed c first (animationStep step) o step.resamples).outcome.map
        .animation := by
  rw [prepareAnimation_outcome frames, decided, Outcome.ok_bind] at touched ⊢
  split_ifs at touched ⊢
  · exact absurd rfl touched
  · cases (Animation.transformed c first (animationStep step) o step.resamples).outcome <;> rfl

/-- An animation that was prepared came out of its frames. -/
theorem transformed_of_prepared {a : Animation} (frames : c.frames = first :: rest)
    (prepared : (prepareAnimation (some c) step o).outcome = .ok (.animation a)) :
    (Animation.transformed c first (animationStep step) o
      (animationStep step).resamples).outcome = .ok a := by
  obtain ⟨runs, decided, -⟩ :=
    Outcome.bind_eq_ok.mp ((prepareAnimation_outcome frames).symm.trans prepared)
  rw [prepareAnimation_transformed frames decided (by rw [prepared]; simp),
    ← resamples_animationStep] at prepared
  obtain ⟨b, joined, same⟩ := Outcome.map_eq_ok.mp prepared
  cases same
  exact joined

theorem prepareStill_cases {p : Prepared} (decoded : source.still.outcome = .ok (r, sf))
    (prepared : (prepareStill source step o f).outcome = .ok p) :
    p = .unchanged ∨ ∃ picture, p = .still picture f o.quality := by
  rw [prepareStill_outcome decoded] at prepared
  obtain ⟨runs, -, prepared⟩ := Outcome.bind_eq_ok.mp prepared
  split_ifs at prepared
  · obtain ⟨picture, -, prepared⟩ := Outcome.bind_eq_ok.mp prepared
    exact .inr ⟨picture, (Except.ok.inj prepared).symm⟩
  · exact .inl (Except.ok.inj prepared).symm
  · exact .inr ⟨r, (Except.ok.inj prepared).symm⟩

theorem prepareAnimation_cases {p : Prepared} (frames : c.frames = first :: rest)
    (prepared : (prepareAnimation (some c) step o).outcome = .ok p) :
    p = .unchanged ∨ ∃ a, p = .animation a := by
  rw [prepareAnimation_outcome frames] at prepared
  obtain ⟨runs, -, prepared⟩ := Outcome.bind_eq_ok.mp prepared
  split_ifs at prepared
  · exact .inl (Except.ok.inj prepared).symm
  · obtain ⟨a, -, prepared⟩ := Outcome.bind_eq_ok.mp prepared
    exact .inr ⟨a, (Except.ok.inj prepared).symm⟩

/-! ## Passing through -/

theorem prepareStill_unchanged_iff (decoded : source.still.outcome = .ok (r, sf)) :
    (prepareStill source step o f).outcome = .ok .unchanged ↔
      step.runsOn o r = .ok false ∧ f = sf := by
  rw [prepareStill_outcome decoded, Outcome.bind_eq_ok]
  constructor
  · rintro ⟨runs, decided, made⟩
    cases runs
    case false =>
      by_cases same : f = sf
      · exact ⟨decided, same⟩
      · simp [same] at made
    case true =>
      obtain ⟨p, -, impossible⟩ := Outcome.bind_eq_ok.mp made
      cases impossible
  · rintro ⟨decided, rfl⟩
    exact ⟨false, decided, by simp⟩

theorem prepareAnimation_unchanged_iff (frames : c.frames = first :: rest) :
    (prepareAnimation (some c) step o).outcome = .ok .unchanged ↔
      step.runsOn o first.picture = .ok false ∧ c.isAnimationFile = true := by
  rw [prepareAnimation_outcome frames, Outcome.bind_eq_ok]
  constructor
  · rintro ⟨runs, decided, made⟩
    split_ifs at made with declined
    · cases runs <;> simp_all
    · obtain ⟨a, -, impossible⟩ := Outcome.bind_eq_ok.mp made
      cases impossible
  · rintro ⟨decided, file⟩
    exact ⟨false, decided, by simp [file]⟩

/-- Whatever the source, it is passed through only where the step is declined. -/
theorem declined_of_unchanged (prepared : (prepare source operation o).outcome = .ok .unchanged) :
    ∃ step r, Step.build operation o = .ok step ∧ step.runsOn o r = .ok false := by
  obtain ⟨step, f, -, built, prepared⟩ := built_of_prepare prepared
  split_ifs at prepared with isGif
  · obtain ⟨c, first, rest, rfl, frames⟩ := frames_of_prepareAnimation prepared
    rw [prepareAnimation_unchanged_iff frames] at prepared
    exact ⟨step, first.picture, built, prepared.1⟩
  · cases decoded : source.still.outcome with
    | error fault => simp [prepareStill, decoded] at prepared
    | ok opened =>
        obtain ⟨r, sf⟩ := opened
        rw [prepareStill_unchanged_iff decoded] at prepared
        exact ⟨step, r, built, prepared.1⟩

theorem reply_ne_unchanged_of_upscale (allowed : o.upscale.truthy = true) :
    reply given shelf look source operation o ≠ .ok .unchanged := by
  intro passed
  obtain ⟨step, r, -, declined⟩ := declined_of_unchanged (reply_unchanged_iff.mp passed)
  exact step.not_declined_of_upscale allowed r declined

/-! ## A plain file -/

/-- A file of one black picture, four pixels wide and two high. -/
def blackFile (f : Format) : Container := .single f.tag (.filled .rgb 4 2 fun _ => 0)

theorem still_blackFile (f : Format) : (Opened.still (some (blackFile f))).outcome =
    .ok (.filled .rgb 4 2 fun _ => 0, f) :=
  Opened.still_single rfl rfl f

end Engine

end Darkroom
