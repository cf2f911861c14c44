/-
# Darkroom.Proofs.Jobs -- a job and its one request

A job comes to one request to the engine (`answer_eq`), and what was set on the command
line settles it (`AnsweredBy`).  Its format is the one the flag names, or else the one of
the suffix of the output, or else that of the source (`FormatFor`); its marks are those
that were asked for, the standard file in place of one that was not, or else those of the
engine (`MarksFor`); its options are those that were set (`OptionsFor`).

What a job fails with is a format without a name, marks that cannot be loaded, or what the
request fails with (`among_answer`).

A run reads the command line, plans and carries out what is planned (`run_of_parse`).
A job is planned to stop, to break, or to write its answer.
-/
import Darkroom.Proofs.Refusals
import Darkroom.Proofs.Settings

namespace Darkroom

set_option autoImplicit false

open Outcome

/-- What an answer puts into a file. -/
def Answer.content (source : Content) : Answer → Content
  | .unchanged => source
  | .encoded e => .written e

namespace Command

variable {look : Lookup} {shelf : Shelf} {j : Job} {source : Content} {format : Option Format}
  {marks : Option Marks} {a : Answer} {asked : Option String} {output path : String}
  {arguments : List String} {o : Operation} {p : Progress}

/-- What the source of a command holds before the run. -/
def sourceIn (look : Lookup) (stdin : Content) (path : String) : Except Disk.Refusal Content :=
  if path = standardStream then .ok stdin else look (.ofText path)

/-! ## The format -/

/-- The format of an output: the one that the flag names, or else the one that the suffix
of the output names, or else none, which stands for that of the source. -/
inductive FormatFor (p : Progress) : Option Format → Prop
  | flag {name : String} {f : Format} (asked : p.Names "format" name)
      (known : Format.ofKey? (Format.nameKey name) = some f) : FormatFor p (some f)
  | suffix {output : String} {f : Format} (unasked : ∀ name, ¬p.Names "format" name)
      (named : p.find? "output" = some (.text output)) (file : output ≠ standardStream)
      (known : Format.ofKey? (Format.nameKey (Path.ofText output).suffix) = some f) :
      FormatFor p (some f)
  | source {output : String} (unasked : ∀ name, ¬p.Names "format" name)
      (named : p.find? "output" = some (.text output)) (unknown : output = standardStream ∨
        Format.ofKey? (Format.nameKey (Path.ofText output).suffix) = none) : FormatFor p none

theorem outputFormat_flag {name : String} (given : givenPath asked = some name) :
    (outputFormat asked output).1 = (Format.ofName (.text name)).map some := by
  unfold givenPath at given
  rw [outputFormat, given]

theorem outputFormat_unasked (given : givenPath asked = none) :
    (outputFormat asked output).1 = .ok (if output = standardStream then none
      else Format.ofKey? (Format.nameKey (Path.ofText output).suffix)) := by
  unfold givenPath at given
  rw [outputFormat, given]
  dsimp only
  by_cases stream : output = standardStream
  · rw [if_pos (.inl stream), if_pos stream]
  · rw [if_neg stream]
    by_cases bare : (Path.ofText output).suffix = ""
    · rw [if_pos (.inr bare), bare]
      rfl
    · rw [if_neg (not_or.mpr ⟨stream, bare⟩)]
      cases Format.ofKey? (Format.nameKey (Path.ofText output).suffix) <;> rfl

theorem Job.outputFormat_flag {name : String} (given : givenPath j.format = some name) :
    j.outputFormat.1 = (Format.ofName (.text name)).map some := by
  unfold Job.outputFormat
  cases j.output with
  | some output => exact Command.outputFormat_flag given
  | none =>
      have given' := given
      unfold givenPath at given'
      rw [given']
      exact Command.outputFormat_flag given

theorem Job.outputFormat_unasked (given : givenPath j.format = none) :
    j.outputFormat.1 = match j.output with
      | some output => .ok (if output = standardStream then none
          else Format.ofKey? (Format.nameKey (Path.ofText output).suffix))
      | none => .error .wrongType := by
  unfold Job.outputFormat
  cases j.output with
  | some output => exact Command.outputFormat_unasked given
  | none =>
      unfold givenPath at given
      rw [given]
      rfl

theorem outputFormat_eq_ok (asks : AsksFor arguments o p) :
    (jobOf o p).outputFormat.1 = .ok format ↔ FormatFor p format := by
  have output (text : String) :
      (jobOf o p).output = some text ↔ p.find? "output" = some (.text text) := asks.place (.inr rfl)
  constructor
  · intro came
    cases given : givenPath (jobOf o p).format with
    | some name =>
        rw [Job.outputFormat_flag given] at came
        obtain ⟨f, named, rfl⟩ := map_eq_ok.mp came
        unfold Format.ofName at named
        split at named
        case h_1 known =>
          obtain rfl := Except.ok.inj named
          exact .flag (Progress.givenPath_text?.mp given) known
        case h_2 => cases named
    | none =>
        have unasked := Progress.givenPath_eq_none.mp given
        rw [Job.outputFormat_unasked given] at came
        cases named : (jobOf o p).output with
        | none =>
            rw [named] at came
            cases came
        | some text =>
            rw [named] at came
            obtain rfl := Except.ok.inj came
            have set := (output text).mp named
            split_ifs with stream
            · exact .source unasked set (.inl stream)
            · cases known : Format.ofKey? (Format.nameKey (Path.ofText text).suffix) with
              | some f => exact .suffix unasked set stream known
              | none => exact .source unasked set (.inr known)
  · intro names
    cases names with
    | flag asked known =>
        rw [Job.outputFormat_flag (Progress.givenPath_text?.mpr asked), Format.ofName]
        simp [Value.plain, known, Except.map]
    | suffix unasked named file known =>
        rw [Job.outputFormat_unasked (Progress.givenPath_eq_none.mpr unasked),
          (output _).mpr named]
        simp only [if_neg file, known]
    | source unasked named unknown =>
        rw [Job.outputFormat_unasked (Progress.givenPath_eq_none.mpr unasked),
          (output _).mpr named]
        dsimp only
        split_ifs with stream
        · rfl
        · rw [unknown.resolve_left stream]

theorem within_outputFormat (j : Job) : Within [.format, .type] j.outputFormat.1 := by
  cases given : givenPath j.format with
  | some name =>
      rw [Job.outputFormat_flag given]
      exact .map (.mono (Format.within_ofName _) rfl) some
  | none =>
      rw [Job.outputFormat_unasked given]
      cases j.output
      · exact .refused rfl
      · exact .ok _

/-! ## The marks -/

/-- The marks of a command: none of its own when it names no file, or else those in the
two files, the standard file standing in for one that it does not name. -/
inductive MarksFor (look : Lookup) (p : Progress) : Option Marks → Prop
  | standard (plain : ∀ path, ¬p.Names "watermark" path)
      (colored : ∀ path, ¬p.Names "watermark_colored" path) : MarksFor look p none
  | explicit {plainPath coloredPath : String} {m : Marks}
      (named : p.Names "watermark" plainPath ∨ p.Names "watermark_colored" coloredPath)
      (plainFile : p.NamesOr "watermark" Marks.plainPath plainPath)
      (coloredFile : p.NamesOr "watermark_colored" Marks.coloredPath coloredPath)
      (plain : Mark.load look (.ofText plainPath) = .ok m.plain)
      (colored : Mark.load look (.ofText coloredPath) = .ok m.colored) : MarksFor look p (some m)

theorem marksOf_named (named : givenPath j.watermark ≠ none ∨ givenPath j.coloredWatermark ≠ none) :
    (marksOf look j).outcome =
      (Marks.load look ((givenPath j.watermark).getD Marks.plainPath)
        ((givenPath j.coloredWatermark).getD Marks.coloredPath)).outcome.map some := by
  unfold marksOf
  split
  case h_1 plain colored => exact absurd named (by simp [plain, colored])
  case h_2 =>
    rw [Logged.outcome_bind]
    cases (Marks.load look ((givenPath j.watermark).getD Marks.plainPath)
        ((givenPath j.coloredWatermark).getD Marks.coloredPath)).outcome <;> rfl

theorem marks_load_eq_ok {plain colored : String} {m : Marks} :
    (Marks.load look plain colored).outcome = .ok m ↔
      Mark.load look (.ofText plain) = .ok m.plain ∧
        Mark.load look (.ofText colored) = .ok m.colored := by
  simp only [Marks.load, Logged.outcome_bind, Logged.outcome_lift, bind_eq_ok,
    Logged.outcome_note, Logged.outcome_pure]
  constructor
  · rintro ⟨p, plain, c, colored, -, -, same⟩
    obtain rfl := Except.ok.inj same
    exact ⟨plain, colored⟩
  · rintro ⟨plain, colored⟩
    exact ⟨m.plain, plain, m.colored, colored, (), trivial, rfl⟩

theorem marksOf_eq_ok : (marksOf look (jobOf o p)).outcome = .ok marks ↔ MarksFor look p marks := by
  have none_ {name : String} : givenPath (p.text? name) = none ↔ ∀ path, ¬p.Names name path :=
    Progress.givenPath_eq_none
  by_cases named : givenPath (jobOf o p).watermark ≠ none ∨
      givenPath (jobOf o p).coloredWatermark ≠ none
  case pos =>
    rw [marksOf_named named, map_eq_ok]
    constructor
    · rintro ⟨m, loaded, rfl⟩
      obtain ⟨plain, colored⟩ := marks_load_eq_ok.mp loaded
      exact .explicit (named.imp Progress.names_of_given Progress.names_of_given)
        (Progress.givenPath_getD.mp rfl) (Progress.givenPath_getD.mp rfl) plain colored
    · intro given
      cases given with
      | standard plain colored =>
          exact absurd named (not_or.mpr ⟨not_not.mpr (none_.mpr plain),
            not_not.mpr (none_.mpr colored)⟩)
      | explicit _ plainFile coloredFile plain colored =>
          have first := Progress.givenPath_getD.mpr plainFile
          have second := Progress.givenPath_getD.mpr coloredFile
          refine ⟨_, marks_load_eq_ok.mpr ⟨?_, ?_⟩, rfl⟩
          · exact first ▸ plain
          · exact second ▸ colored
  case neg =>
    obtain ⟨plain, colored⟩ := not_or.mp named
    rw [not_not] at plain colored
    have standard : (marksOf look (jobOf o p)).outcome = .ok none := by
      unfold marksOf
      rw [plain, colored]
      rfl
    rw [standard]
    constructor
    · intro same
      obtain rfl := Except.ok.inj same
      exact .standard (none_.mp plain) (none_.mp colored)
    · intro given
      cases given with
      | standard => rfl
      | explicit either =>
          rcases either with given | given
          · exact absurd given (none_.mp plain _)
          · exact absurd given (none_.mp colored _)

theorem within_marksOf (look : Lookup) (j : Job) : Within .loading (marksOf look j).outcome := by
  by_cases named : givenPath j.watermark ≠ none ∨ givenPath j.coloredWatermark ≠ none
  · rw [marksOf_named named]
    refine .map ?_ some
    simp only [Marks.load, Logged.outcome_bind, Logged.outcome_lift]
    exact .bind (Mark.within_load _ look) fun _ => .bind (Mark.within_load _ look) fun _ => .ok _
  · obtain ⟨plain, colored⟩ := not_or.mp named
    rw [not_not] at plain colored
    unfold marksOf
    rw [plain, colored]
    exact .ok _

/-! ## The answer -/

/-- A job is one request, made with its format and its marks. -/
theorem answer_eq : (answer look shelf j source).1 = (do
    let format ← j.outputFormat.1
    let marks ← (marksOf look j).outcome
    Engine.reply marks shelf look source.opened (.text j.operation.name) (optionsOf j format)) := by
  unfold answer
  cases formats : j.outputFormat with
  | mk format said =>
      cases format with
      | error fault => rfl
      | ok format =>
          cases loaded : (marksOf look j).outcome with
          | error fault => simp [loaded]
          | ok marks => simp [loaded, Engine.reply]

/-- What a command is answered with: what the engine answers to the one request that was
set. -/
structure AnsweredBy (look : Lookup) (shelf : Shelf) (o : Operation) (p : Progress)
    (source : Content) (format : Option Format) (marks : Option Marks) (options : Options)
    (a : Answer) : Prop where
  named : FormatFor p format
  loaded : MarksFor look p marks
  asked : OptionsFor p format options
  reply : Engine.reply marks shelf look source.opened (.text o.name) options = .ok a

theorem answer_eq_ok (asks : AsksFor arguments o p) :
    (answer look shelf (jobOf o p) source).1 = .ok a ↔
      ∃ format marks options, AnsweredBy look shelf o p source format marks options a := by
  rw [answer_eq]
  constructor
  · intro came
    obtain ⟨format, found, came⟩ := bind_eq_ok.mp came
    obtain ⟨marks, loaded, came⟩ := bind_eq_ok.mp came
    exact ⟨format, marks, _, (outputFormat_eq_ok asks).mp found, marksOf_eq_ok.mp loaded,
      options_for asks format, came⟩
  · rintro ⟨format, marks, options, found, loaded, asked, came⟩
    obtain rfl := asked.unique (options_for asks format)
    rw [(outputFormat_eq_ok asks).mpr found, ok_bind, marksOf_eq_ok.mpr loaded, ok_bind]
    exact came

/-- What a job can fail with. -/
theorem among_answer :
    Among (.format :: Fault.Kinds.answering) (answer look shelf j source).1 := by
  rw [answer_eq]
  exact .bind (.among (within_outputFormat j) rfl) fun _ =>
    .bind (.among (within_marksOf look j) rfl) fun marks =>
      Engine.among_reply_unsettled _ marks shelf look

/-! ## The run -/

/-- What is left to do for a request. -/
def Request.work (request : Request) (s : Session) (stdin : Content) : Work :=
  (plan s.disk.read s.shelf stdin request).1.work

/-- A command line that makes sense is planned, and the plan carried out. -/
theorem run_of_parse (s : Session) (stdin : Content) {arguments : List String}
    {environment : Option String} {invocation : Invocation}
    (parsed : Invocation.parse arguments environment = .ok invocation) :
    let done := (invocation.request.work s stdin).carryOut s
    (run s stdin environment arguments).1.ending = done.1 ∧
      (run s stdin environment arguments).1.printed = done.2.2.1 ∧
      (run s stdin environment arguments).2.disk = done.2.2.2 := by
  obtain ⟨level, wished⟩ := ofWish_found parsed
  simp only [run, parsed, wished, Request.work, and_self]

section

variable {s : Session} {stdin : Content}

/-- A source without a value is no path. -/
theorem work_of_unnamed (unnamed : j.source = none) :
    (Request.job j).work s stdin = .break_ .wrongType := by
  simp only [Request.work, plan, planJob, unnamed]

theorem work_of_unread {r : Disk.Refusal} (named : j.source = some path)
    (refused : sourceIn s.disk.read stdin path = .error r) :
    (Request.job j).work s stdin =
      if r.obstacle = .nullCharacter then .break_ .nullInPath else .stop 1 .nothing := by
  unfold sourceIn at refused
  split_ifs at refused with file
  simp only [Request.work, plan, planJob, named, if_neg file, readFile, refused, unreadWork]
  split <;> rfl

/-- The source of a job is read, and this is what the engine makes of it. -/
structure Job.Comes (j : Job) (s : Session) (stdin source : Content) (result : Outcome Answer) :
    Prop where
  read : ∃ path, j.source = some path ∧ sourceIn s.disk.read stdin path = .ok source
  result : (answer s.disk.read s.shelf j source).1 = result

/-- What is left to do with what the engine came to. -/
def Job.close (j : Job) (source : Content) : Outcome Answer → Work
  | .error fault => if isReported fault then .stop 1 .nothing else .break_ fault
  | .ok a => deliver j source a

theorem Job.Comes.work {result : Outcome Answer} (comes : j.Comes s stdin source result) :
    (Request.job j).work s stdin = j.close source result := by
  obtain ⟨⟨path, named, read⟩, answered⟩ := comes
  have planned : (Request.job j).work s stdin =
      (planAnswer s.disk.read s.shelf j source).1.work := by
    unfold sourceIn at read
    simp only [Request.work, plan, planJob, named]
    split_ifs at read ⊢
    · obtain rfl := Except.ok.inj read
      rfl
    · simp only [readFile, read]
  rw [planned, planAnswer]
  simp only [answered]
  cases result with
  | error fault =>
      dsimp only [Job.close]
      split <;> rfl
  | ok a => rfl

/-- An answer is all that is written. -/
theorem deliver_named {c : Content} (named : j.output = some output) :
    ∃ success, deliver j c a = .write output (a.content c) success := by
  unfold deliver
  rw [named]
  cases a <;> exact ⟨_, rfl⟩

/-- An output without a value is no path. -/
theorem deliver_unnamed (unnamed : j.output = none) :
    deliver j source a = .break_ .wrongType := by
  rw [deliver, unnamed]

end

end Command

end Darkroom
