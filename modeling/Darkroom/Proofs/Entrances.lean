/-
# Darkroom.Proofs.Entrances -- where a source comes in

A source is looked at in one of three places: its head alone where the answer is to
have its format, its first picture where a still file is asked for, and its first
frame where a GIF file is.  `Opened.enter` is the look that a request takes first.
What it refuses the request is refused for, and a source that came in is not called
unsupported any more (`entrances`).

The three places agree on a source exactly when it is `Even`.  They do not on a file
that is recognised under a name that is no source format, on a first picture that is
damaged in another way than that it is cut short, and on one without colours.
-/
import Darkroom.Proofs.Refusals

namespace Darkroom

set_option autoImplicit false

open Outcome

/-- A refusal that calls a format unsupported, of the source or of the answer. -/
def Fault.isUnsupported : Fault → Bool
  | .unsupportedSource _ | .unsupportedFormat _ => true
  | _ => false

/-- Kinds that are neither of the source nor of a format. -/
theorem Outcome.Only.supported {α : Type} {ks : Fault.Kinds} {x : Outcome α} (known : Within ks x)
    (other : (ks.contains .decode || ks.contains .format) = false) :
    Only (·.isUnsupported = false) x := by
  intro fault failed
  have listed : fault.kind ∈ ks := known.kinds fault failed
  rw [← List.contains_iff_mem] at listed
  cases fault <;> first | rfl | simp_all [Fault.kind]

namespace Container

/-- What is said of a file that has no frame to start with. -/
def firstFault (c : Container) : Fault := (c.damage.map (·.fault)).getD .undecodableFrame

/-- What is said of a file that has no picture where a still one is looked for. -/
def stillFault (c : Container) : Fault := (c.damage.map (·.stillFault)).getD .undecodable

/-- A file whose pixels are cut short, or which has a part that is none of its kind. -/
def IsCutShort (c : Container) : Prop := ∀ d, c.damage = some d → d = .pixels ∨ d = .broken

/-- Exactly of these the look at the first frame says that they cannot be decoded. -/
theorem isCutShort_iff {c : Container} : c.IsCutShort ↔ c.firstFault.kind = .decode := by
  unfold IsCutShort firstFault
  cases c.damage with
  | none => simp [Fault.kind]
  | some d => cases d <;> simp <;> decide

/-- The look at a still picture says so of these as well, and of more. -/
theorem IsCutShort.stillFault {c : Container} (short : c.IsCutShort) :
    c.stillFault.kind = .decode := by
  unfold Container.stillFault
  cases damaged : c.damage with
  | none => rfl
  | some d => rcases short d damaged with rfl | rfl <;> rfl

end Container

namespace Opened

variable {s : Opened} {c : Container} {first : Frame} {rest : List Frame} {f sf : Format}

/-- The first frame of a file, where an animation starts. -/
def firstFrame (s : Opened) : Outcome Frame := do
  let c ← s.container
  match c.frames with
  | [] => .error c.firstFault
  | first :: _ => .ok first

/-- The first look at a file for an answer in a format. -/
def enterAs (s : Opened) (f : Format) : Outcome Unit :=
  if f = .gif then s.firstFrame.map fun _ => () else s.still.outcome.map fun _ => ()

/-- The first look at a file for an answer in the format asked for, or else in its own. -/
def enter (s : Opened) (requested : Option Format) : Outcome Unit := do
  s.enterAs (← Engine.outputFormat s requested)

/-- A source that all looks agree on: it is not recognised at all, or it is in a known
format, and its first picture is either cut short or there in colours. -/
def Even (s : Opened) : Prop :=
  ∀ c, s = some c → c.format?.isSome = true ∧
    match c.frames with
    | [] => c.IsCutShort
    | first :: _ => first.picture.isConvertible = true

/-- The looks agree on a source: all of them say that it cannot be decoded, or none
refuses it. -/
def Alike (s : Opened) : Prop :=
  (∀ requested, ∃ fault, s.enter requested = .error fault ∧ fault.kind = .decode) ∨
    ∀ requested, s.enter requested = .ok ()

/-- A look refuses a source where its head, its first picture or its first frame is
refused. -/
theorem enter_refused_iff : (∃ requested fault, s.enter requested = .error fault) ↔
    (∃ fault, s.probe = .error fault) ∨ (∃ fault, s.still.outcome = .error fault) ∨
      ∃ fault, s.firstFrame = .error fault := by
  constructor
  · rintro ⟨requested, fault, looked⟩
    unfold enter at looked
    cases found : Engine.outputFormat s requested with
    | error other =>
        cases requested with
        | none => exact .inl ⟨other, found⟩
        | some f => cases found
    | ok f =>
        rw [found, Outcome.ok_bind, enterAs] at looked
        split_ifs at looked
        · exact .inr (.inr ⟨fault, map_eq_error.mp looked⟩)
        · exact .inr (.inl ⟨fault, map_eq_error.mp looked⟩)
  · rintro (⟨fault, refused⟩ | ⟨fault, refused⟩ | ⟨fault, refused⟩)
    · exact ⟨none, fault, by rw [enter, Engine.outputFormat, refused]; rfl⟩
    · exact ⟨some .png, fault, map_eq_error.mpr refused⟩
    · exact ⟨some .gif, fault, map_eq_error.mpr refused⟩

theorem enter_unrecognised (requested : Option Format) :
    enter none requested = .error .unidentified := by
  cases requested with
  | none => rfl
  | some f => cases f <;> rfl

theorem enter_foreign (foreign : c.format? = none) :
    enter (some c) none = .error (.unsupportedFormat (.text c.tag)) := by
  simp [enter, Engine.outputFormat, probe, container, foreign]

theorem enterAs_foreign (foreign : c.format? = none) (frames : c.frames = first :: rest)
    (plain : f ≠ .gif) : enterAs (some c) f = .error (.unsupportedSource c.tag) := by
  rw [enterAs, if_neg plain]
  simp [still, container, frames, foreign, Except.map]

theorem enter_known (known : c.format? = some sf) :
    enter (some c) none = enterAs (some c) sf := by
  simp [enter, Engine.outputFormat, probe, container, known]

/-- Without a first picture the looks at it differ in what they say. -/
theorem enterAs_nil (frames : c.frames = []) :
    enterAs (some c) f = .error (if f = .gif then c.firstFault else c.stillFault) := by
  unfold enterAs
  split
  · simp [firstFrame, container, frames, Except.map]
  · simp [still, container, frames, Except.map, Container.stillFault]

theorem firstFrame_cons (frames : c.frames = first :: rest) :
    firstFrame (some c) = .ok first := by
  simp [firstFrame, container, frames]

theorem firstFrame_eq_ok (start : s.firstFrame = .ok first) :
    ∃ c rest, s = some c ∧ c.frames = first :: rest := by
  cases s with
  | none => cases start
  | some c =>
      cases frames : c.frames with
      | nil => simp [firstFrame, container, frames] at start
      | cons first' rest =>
          rw [firstFrame_cons frames] at start
          obtain rfl := Except.ok.inj start
          exact ⟨c, rest, rfl, frames⟩

theorem enterAs_gif (frames : c.frames = first :: rest) : enterAs (some c) .gif = .ok () := by
  rw [enterAs, if_pos rfl, firstFrame_cons frames]
  rfl

/-- The first picture of a file in a known format comes in if it has colours. -/
theorem enterAs_cons (known : c.format? = some sf) (frames : c.frames = first :: rest)
    (colours : first.picture.isConvertible = true) : enterAs (some c) f = .ok () := by
  by_cases isGif : f = .gif
  · rw [isGif, enterAs_gif frames]
  · obtain ⟨r, made⟩ := first.picture.normalized_found colours
    have decoded : (still (some c)).outcome = .ok (r, sf) := by
      simp [still, container, frames, known, made]
    rw [enterAs, if_neg isGif, decoded]
    rfl

/-- In a known format, a look that agrees on all formats of the answer agrees on an
answer without one as well. -/
theorem alike_of_enterAs (known : c.format? = some sf)
    (same : (∀ f, ∃ fault, enterAs (some c) f = .error fault ∧ fault.kind = .decode) ∨
      ∀ f, enterAs (some c) f = .ok ()) : Alike (some c) := by
  rcases same with refused | entered
  · refine .inl fun requested => ?_
    cases requested with
    | none => exact enter_known known ▸ refused sf
    | some f => exact refused f
  · refine .inr fun requested => ?_
    cases requested with
    | none => exact enter_known known ▸ entered sf
    | some f => exact entered f

theorem alike_of_even (even : s.Even) : s.Alike := by
  cases s with
  | none => exact .inl fun _ => ⟨.unidentified, enter_unrecognised _, rfl⟩
  | some c =>
      obtain ⟨known, start⟩ := even c rfl
      obtain ⟨sf, known⟩ := Option.isSome_iff_exists.mp known
      refine alike_of_enterAs known ?_
      cases frames : c.frames with
      | nil =>
          rw [frames] at start
          refine .inl fun f => ⟨_, enterAs_nil frames, ?_⟩
          split
          · exact Container.isCutShort_iff.mp start
          · exact start.stillFault
      | cons first rest =>
          rw [frames] at start
          exact .inr fun f => enterAs_cons known frames start

theorem even_of_alike (alike : s.Alike) : s.Even := by
  rintro c rfl
  constructor
  · cases foreign : c.format? with
    | some sf => rfl
    | none =>
        -- The head alone is refused for its format, so the looks differ.
        have head := enter_foreign foreign
        rcases alike with refused | entered
        · obtain ⟨fault, same, isDecode⟩ := refused none
          obtain rfl := Except.error.inj (head.symm.trans same)
          cases isDecode
        · cases head.symm.trans (entered none)
  · cases frames : c.frames with
    | nil =>
        have gif : enter (some c) (some .gif) = .error c.firstFault := by
          change enterAs (some c) .gif = _
          rw [enterAs_nil frames, if_pos rfl]
        rcases alike with refused | entered
        · obtain ⟨fault, same, isDecode⟩ := refused (some .gif)
          obtain rfl := Except.error.inj (gif.symm.trans same)
          exact Container.isCutShort_iff.mpr isDecode
        · cases gif.symm.trans (entered (some .gif))
    | cons first rest =>
        have gif : enter (some c) (some .gif) = .ok () := enterAs_gif frames
        rcases alike with refused | entered
        · obtain ⟨fault, same, -⟩ := refused (some .gif)
          cases gif.symm.trans same
        · obtain ⟨⟨r, sf⟩, decoded, -⟩ := Outcome.map_eq_ok.mp (entered (some .png))
          exact Raster.isConvertible_of_normalized (normalized_of_still frames decoded)

end Opened

namespace Engine

variable {s : Opened} {c : Container} {requested : Option Format} {o : Options} {step : Step}
  {operation : Value} {fault : Fault} {f : Format}

/-! ## What a request is refused for -/

/-- Damage in later frames is not put down to the format. -/
theorem supported_transformed (first : Frame) :
    Only (·.isUnsupported = false)
      (Animation.transformed c first step o step.resamples).outcome := by
  rw [Animation.transformed_outcome]
  refine .bind (.mapM (fun canvas => ?_) _) fun pictures => ?_
  · exact .bind ((step.within_runScaled o canvas).supported rfl) fun p =>
      (p.within_paletted 256).supported rfl
  · cases c.damage with
    | some d => exact .error (by cases d <;> rfl)
    | none => exact (Animation.within_ofPictures _ _ _ _ _).supported rfl

theorem prepareAnimation_of_fault (failed : s.firstFrame = .error fault) :
    (prepareAnimation s step o).outcome = .error fault := by
  cases s with
  | none =>
      obtain rfl := Except.error.inj failed
      rfl
  | some c =>
      cases frames : c.frames with
      | nil =>
          simp only [Opened.firstFrame, Opened.container, ok_bind, frames] at failed
          obtain rfl := Except.error.inj failed
          simp [prepareAnimation, Animation.ofOpened, Opened.container, frames,
            Container.firstFault]
      | cons first rest =>
          rw [Opened.firstFrame_cons frames] at failed
          cases failed

/-- A file that came in is not called unsupported on its way to what there is to write. -/
theorem supported_path (entered : s.enterAs f = .ok ()) :
    Only (·.isUnsupported = false)
      (if f = .gif then (prepareAnimation s step o).outcome
        else (prepareStill s step o f).outcome) := by
  unfold Opened.enterAs at entered
  split_ifs at entered ⊢ with isGif
  · obtain ⟨first, start, -⟩ := map_eq_ok.mp entered
    obtain ⟨c, rest, rfl, frames⟩ := Opened.firstFrame_eq_ok start
    rw [prepareAnimation_outcome frames, ← resamples_animationStep]
    exact .bind ((step.within_runsOn o _).supported rfl) fun _ => .ite (.ok _)
      (.bind (supported_transformed first) fun _ => .ok _)
  · obtain ⟨⟨r, sf⟩, decoded, -⟩ := map_eq_ok.mp entered
    rw [prepareStill_outcome decoded]
    exact .bind ((step.within_runsOn o r).supported rfl) fun _ =>
      .ite (.bind ((step.within_run r).supported rfl) fun _ => .ok _) (.ok _)

section

variable (given : Option Marks) (shelf : Shelf) (look : Lookup) (valid : o.validate = .ok ())
  (asked : o.requestedFormat = .ok requested) (built : Step.build operation o = .ok step)

include valid asked built

theorem prepare_of_asked : (prepare s operation o).outcome = (do
    let f ← outputFormat s requested
    if f = .gif then (prepareAnimation s step o).outcome
    else (prepareStill s step o f).outcome) := by
  simp only [prepare_outcome, valid, asked, built, ok_bind]

/-- What the first look refuses is what the request is refused for. -/
theorem reply_of_refused (refused : s.enter requested = .error fault) :
    reply given shelf look s operation o = .error fault := by
  apply reply_of_fault
  rw [prepare_of_asked valid asked built]
  unfold Opened.enter at refused
  cases found : outputFormat s requested with
  | error other =>
      rw [found] at refused
      obtain rfl := Except.error.inj refused
      rfl
  | ok f =>
      rw [found, ok_bind, Opened.enterAs] at refused
      rw [ok_bind]
      split_ifs at refused ⊢
      · exact prepareAnimation_of_fault (map_eq_error.mp refused)
      · have failed := map_eq_error.mp refused
        simp [prepareStill, failed]

/-- A source that came in is not called unsupported. -/
theorem supported_reply (entered : s.enter requested = .ok ()) :
    Only (·.isUnsupported = false) (reply given shelf look s operation o) := by
  obtain ⟨f, found, entered⟩ := bind_eq_ok.mp entered
  rw [reply_eq, prepare_of_asked valid asked built, found, ok_bind]
  exact .bind (supported_path entered) fun p => (within_completed given shelf look p).supported rfl

/-- A fault for a format, of a request that asks for none or for one there is, is the
source's: its head is recognised under a name that is no format. -/
theorem format_fault_iff (failed : reply given shelf look s operation o = .error fault) :
    fault.kind = .format ↔ requested = none ∧ ∃ c, s = some c ∧ c.format? = none := by
  constructor
  · intro isFormat
    cases found : outputFormat s requested with
    | ok f =>
        have settled : answerFormat s o = .ok f := bind_eq_ok.mpr ⟨requested, asked, found⟩
        have listed : fault.kind ∈ Fault.Kinds.answering :=
          among_reply operation given shelf look settled fault failed
        rw [isFormat] at listed
        cases List.contains_iff_mem.mpr listed
    | error other =>
        cases requested with
        | some f => cases found
        | none =>
            refine ⟨rfl, ?_⟩
            cases s with
            | none =>
                have said := reply_of_refused given shelf look valid asked built
                  (Opened.enter_unrecognised none)
                obtain rfl := Except.error.inj (failed.symm.trans said)
                cases isFormat
            | some c =>
                cases foreign : c.format? with
                | none => exact ⟨c, rfl, foreign⟩
                | some sf => simp [outputFormat, Opened.probe, Opened.container, foreign] at found
  · rintro ⟨rfl, c, rfl, foreign⟩
    have said := reply_of_refused given shelf look valid asked built (Opened.enter_foreign foreign)
    obtain rfl := Except.error.inj (failed.symm.trans said)
    rfl

end

/-- Where a source comes in.  There are three looks at it, and they agree exactly when
it is even.  A request is refused for what its own look says; once the source came in,
no format is called unsupported.  That the format of the source is mistaken for one
that was asked for happens where none was asked for and the source is in an unknown
one. -/
theorem entrances (s : Opened) :
    ((∃ requested fault, s.enter requested = .error fault) ↔
      (∃ fault, s.probe = .error fault) ∨ (∃ fault, s.still.outcome = .error fault) ∨
        ∃ fault, s.firstFrame = .error fault) ∧
    (s.Even ↔ s.Alike) ∧
    ∀ given shelf look operation o step requested, o.validate = .ok () →
      o.requestedFormat = .ok requested → Step.build operation o = .ok step →
        (∀ fault, s.enter requested = .error fault →
          reply given shelf look s operation o = .error fault) ∧
        (s.enter requested = .ok () → ∀ fault,
          reply given shelf look s operation o = .error fault → fault.isUnsupported = false) ∧
        ∀ fault, reply given shelf look s operation o = .error fault →
          (fault.kind = .format ↔
            requested = none ∧ ∃ c, s = some c ∧ c.format? = none) := by
  refine ⟨Opened.enter_refused_iff, ⟨Opened.alike_of_even, Opened.even_of_alike⟩, ?_⟩
  intro given shelf look operation o step requested valid asked built
  exact ⟨fun fault => reply_of_refused given shelf look valid asked built,
    fun entered => supported_reply given shelf look valid asked built entered,
    fun fault => format_fault_iff given shelf look valid asked built⟩

/-- A stack of two pictures: it is recognised, but not under the name of a format. -/
def stack : Container where
  tag := Container.stackTag
  frames := [⟨.filled .rgb 2 1 fun _ => 9, {}⟩, ⟨.filled .rgb 2 1 fun _ => 7, {}⟩]

/-- The stack is what its file is opened as. -/
theorem stack_opened : (Content.picture stack).opened = some stack := rfl

/-- Without a format for the answer the stack is refused for that of an answer, and with
one because it cannot be decoded. -/
theorem stack_mistaken :
    reply none {} (Disk.read {}) (Content.picture stack).opened (.text Operation.rotate.name)
      { degree := .number (.int 90) } = .error (.unsupportedFormat (.text "MPO")) ∧
    (Fault.unsupportedFormat (.text "MPO")).kind ≠ .decode ∧
    reply none {} (Disk.read {}) (Content.picture stack).opened (.text Operation.rotate.name)
      { degree := .number (.int 90), format := .format .png } =
        .error (.unsupportedSource "MPO") := by
  have foreign : stack.format? = none := by decide +kernel
  rw [stack_opened]
  have looked : Opened.enter (some stack) (some .png) = .error (.unsupportedSource "MPO") :=
    Opened.enterAs_foreign (f := .png) foreign rfl (by decide)
  exact ⟨reply_of_refused none {} (Disk.read {}) rfl rfl rfl (Opened.enter_foreign foreign), nofun,
    reply_of_refused none {} (Disk.read {}) rfl rfl rfl looked⟩

/-- A file that breaks off in its first picture cannot be decoded, whether a file of its
own format is asked for or an animation. -/
theorem unreadable_alike :
    let broken : Opened := some (.damaged Format.png.tag .pixels)
    broken.Alike ∧
    reply none {} (Disk.read {}) broken (.text Operation.rotate.name)
      { degree := .number (.int 90) } = .error .undecodable ∧
    reply none {} (Disk.read {}) broken (.text Operation.rotate.name)
      { degree := .number (.int 90), format := .format .gif } = .error .undecodableFrame := by
  intro broken
  have known : (Container.damaged Format.png.tag .pixels).format? = some .png :=
    Container.format?_of_tag rfl
  obtain ⟨-, alike, requests⟩ := entrances broken
  have even : broken.Even := by
    intro c same
    obtain rfl := Option.some.inj same
    exact ⟨by rw [known]; rfl, fun d same => .inl (Option.some.inj same).symm⟩
  have own : broken.enter none = .error .undecodable := by
    rw [Opened.enter_known known, Opened.enterAs_nil rfl, if_neg (by decide)]
    rfl
  exact ⟨alike.mp even, (requests none {} (Disk.read {}) _ _ _ none rfl rfl rfl).1 _ own,
    (requests none {} (Disk.read {}) _ _ _ (some .gif) rfl rfl rfl).1 _ rfl⟩

end Engine

end Darkroom
