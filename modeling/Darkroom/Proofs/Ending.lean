/-
# Darkroom.Proofs.Ending -- how a run ends

A command line that makes sense ends in one of three ways (`run_ends`).  It succeeds
when a job is answered and its answer taken, or a colour is found and told (`Succeeds`).
It breaks in a listed number of ways (`Breaks`): at a null character in a path or at a
path without a value, where there is no colour to report on, where the report on a colour
is not taken, or for a fault that the report on a command passes by.  In all other cases
it ends with code 1.

A fault that breaks a run is never one that the engine words itself, and of rejected
values a job breaks for none but a null character (`kind_of_breaks`).  That a picture has
no colour breaks a run only where its size is out of the ordinary or there is no room to
look for it (`colorOf_found`).  Still, a command line that asks for a colour with an empty
text is accepted, and breaks (`unasked_color_breaks`).
-/
import Darkroom.Proofs.Files
import Darkroom.Proofs.Jobs
import Darkroom.Proofs.Reporting

namespace Darkroom

set_option autoImplicit false

open Outcome

/-- The kinds of faults that can break a run. -/
def Fault.Kinds.breaking : Fault.Kinds :=
  [.value, .type, .overflow, .division, .encoder, .library, .index]

namespace Command

/-! ## Colours -/

/-- What there is to be reported on: the colour of a text, or else that of a picture. -/
inductive ColorFor (look : Lookup) : Option String → Option String → Outcome Rgb → Prop
  | text {source hex : Option String} {text : String} (given : givenPath hex = some text) :
      ColorFor look source hex (Rgb.ofHex (.text text))
  | picture {path : String} {hex : Option String} {content : Content}
      (unasked : givenPath hex = none) (read : look (.ofText path) = .ok content) :
      ColorFor look (some path) hex (colorOf content.opened).outcome

theorem within_ofHex (text : String) : Within [.hex] (Rgb.ofHex (.text text)) := by
  unfold Rgb.ofHex Rgb.ofHexText
  dsimp only
  split
  · exact .refused rfl
  · exact .refused rfl
  · exact .ite (.ok _) (.refused rfl)

theorem within_colorOf (source : Opened) :
    Within (.decode :: .index :: Fault.Kinds.writing) (colorOf source).outcome := by
  simp only [colorOf, Logged.outcome_bind]
  exact .bind (.mono source.within_still rfl) fun opened =>
    .bind (.mono (Watermark.within_dominant _ _ _) rfl) fun _ => .ok _

/-- A picture that can be decoded has a colour, unless its size is out of the ordinary or
there is no room to look for it. -/
theorem colorOf_found {source : Opened} {r : Raster} {sf : Format}
    (decoded : source.still.outcome = .ok (r, sf)) (wide : 0 < r.width) (tall : 0 < r.height)
    (narrow : r.width < 2 ^ 31) (low : r.height < 2 ^ 31) :
    RoomAllows r.IsShort (colorOf source).outcome := by
  obtain ⟨c, first, rest, -, -, -, made⟩ := Opened.still_eq_ok decoded
  simp only [colorOf, Logged.outcome_bind, decoded, ok_bind, Logged.outcome_pure]
  exact (Watermark.dominant_found (Raster.isConvertible_of_plain (Raster.normalized_mode made))
    wide tall narrow low).bind fun answer _ => .ok _

/-! ## Ways to end -/

section

variable (s : Session) (stdin : Content)

/-- A content is taken where an output says: printed, or written into a file. -/
def Takes (output : String) (c : Content) : Prop :=
  if output = standardStream then s.stream c = none
  else (s.disk.write (.ofText output) c).2 = none

/-- A job is answered and its answer taken, or a colour is found and told. -/
inductive Succeeds : Request → Prop
  | job {j : Job} {source : Content} {a : Answer} {output : String}
      (comes : j.Comes s stdin source (.ok a)) (named : j.output = some output)
      (taken : Takes s output (a.content source)) : Succeeds (.job j)
  | color {source hex : Option String} {c : Rgb} {text : String}
      (asked : ColorFor s.disk.read source hex (.ok c)) (told : colorText c = .ok text)
      (taken : s.stream (.bytes text.toUTF8.data) = none) : Succeeds (.color source hex)

/-- What breaks a run, and with which fault. -/
inductive Breaks : Request → Fault → Prop
  /-- The source was given without a value. -/
  | unnamed {j : Job} (none_ : j.source = none) : Breaks (.job j) .wrongType
  /-- The source has a name that no file can have. -/
  | source {j : Job} {path : String} (named : j.source = some path) (file : path ≠ standardStream)
      (null : Disk.hasNull (.ofText path) = true) : Breaks (.job j) .nullInPath
  | fault {j : Job} {source : Content} {fault : Fault} (comes : j.Comes s stdin source (.error fault))
      (passed : isReported fault = false) : Breaks (.job j) fault
  /-- The output was given without a value. -/
  | unaddressed {j : Job} {source : Content} {a : Answer} (comes : j.Comes s stdin source (.ok a))
      (none_ : j.output = none) : Breaks (.job j) .wrongType
  /-- The output has a name that no file can have, and no other obstacle is met before. -/
  | output {j : Job} {source : Content} {a : Answer} {output : String}
      (comes : j.Comes s stdin source (.ok a)) (named : j.output = some output)
      (file : output ≠ standardStream) (null : Disk.hasNull (.ofText output) = true)
      (met : Disk.hasNull (Path.ofText output).parent = true ∨
        (s.disk.ensureDirectories (Path.ofText output).root
          (Path.ofText output).parent.names.reverse).2 = none) :
      Breaks (.job j) .nullInPath
  /-- An empty text is given for the colour, and no picture. -/
  | nothing {hex : Option String} (unasked : givenPath hex = none) :
      Breaks (.color none hex) .wrongType
  | picture {path : String} {hex : Option String} (unasked : givenPath hex = none)
      (null : Disk.hasNull (.ofText path) = true) : Breaks (.color (some path) hex) .nullInPath
  | color {path : String} {hex : Option String} {content : Content} {fault : Fault}
      (unasked : givenPath hex = none) (read : s.disk.read (.ofText path) = .ok content)
      (failed : (colorOf content.opened).outcome = .error fault)
      (passed : fault.isEngine = false) : Breaks (.color (some path) hex) fault
  /-- The report on a colour is not taken. -/
  | untaken {source hex : Option String} {c : Rgb} {text : String} {b : Disk.Break}
      (asked : ColorFor s.disk.read source hex (.ok c)) (told : colorText c = .ok text)
      (broken : s.stream (.bytes text.toUTF8.data) = some b) :
      Breaks (.color source hex) .unprintable

end

variable {s : Session} {stdin : Content} {request : Request} {fault : Fault}

/-- How a request ends. -/
def Request.ending (request : Request) (s : Session) (stdin : Content) : Ending :=
  ((request.work s stdin).carryOut s).1

/-- What is left to do for a colour, or for want of one. -/
def colorWork : Outcome Rgb → Work
  | .ok c => match colorText c with
    | .ok text => .stop 0 (.text text)
    | .error fault => .break_ fault
  | .error fault => if fault.isEngine then .stop 1 .nothing else .break_ fault

theorem work_of_report (color : Logged Rgb) :
    (planReport color).work = colorWork color.outcome := by
  obtain ⟨outcome, entries⟩ := color
  cases outcome with
  | ok c =>
      simp only [planReport, colorWork]
      cases colorText c <;> rfl
  | error fault =>
      simp only [planReport, colorWork]
      split <;> rfl

theorem work_of_color {source hex : Option String} {color : Outcome Rgb}
    (asked : ColorFor s.disk.read source hex color) :
    (Request.color source hex).work s stdin = colorWork color := by
  cases asked with
  | text given =>
      unfold givenPath at given
      simp only [Request.work, plan, planColor, given, work_of_report]
  | picture unasked read =>
      unfold givenPath at unasked
      simp only [Request.work, plan, planColor, unasked, readFile, read, work_of_report]

/-- A picture that cannot be read has no colour to be reported on. -/
theorem work_of_unreadable {path : String} {hex : Option String} {r : Disk.Refusal}
    (unasked : givenPath hex = none) (refused : s.disk.read (.ofText path) = .error r) :
    (Request.color (some path) hex).work s stdin =
      if r.obstacle = .nullCharacter then .break_ .nullInPath else .stop 1 .nothing := by
  unfold givenPath at unasked
  simp only [Request.work, plan, planColor, unasked, readFile, refused, unreadWork]
  split <;> rfl

theorem ending_of_succeeds (done : Succeeds s stdin request) :
    request.ending s stdin = .code 0 := by
  unfold Request.ending
  cases done with
  | job comes named taken =>
      obtain ⟨success, work⟩ := deliver_named named
      rw [comes.work, Job.close, work]
      unfold Takes at taken
      unfold Work.carryOut
      dsimp only
      split_ifs at taken ⊢
      · rw [taken]
      · split
        · rfl
        · rename_i refused
          rw [refused] at taken
          cases taken
  | color asked told taken =>
      rw [work_of_color asked, colorWork, told]
      dsimp only
      rw [Work.carryOut, taken]

theorem ending_of_breaks (broken : Breaks s stdin request fault) :
    request.ending s stdin = .broken fault := by
  unfold Request.ending
  cases broken with
  | unnamed none_ =>
      rw [work_of_unnamed none_]
      rfl
  | source named file null =>
      have refused := (Disk.nullAware_read (d := s.disk)).1 null
      rw [work_of_unread named (by rw [sourceIn, if_neg file, refused]), if_pos rfl]
      rfl
  | fault comes passed =>
      rw [comes.work, Job.close, passed]
      rfl
  | unaddressed comes none_ =>
      rw [comes.work, Job.close, deliver_unnamed none_]
      rfl
  | output comes named file null met =>
      obtain ⟨success, work⟩ := deliver_named named
      obtain ⟨r, refused, obstacle⟩ := Disk.write_null_iff.mpr ⟨null, met⟩
      rw [comes.work, Job.close, work, Work.carryOut, if_neg file]
      split
      · rename_i same
        rw [same] at refused
        cases refused
      · rename_i same
        rw [same] at refused
        obtain rfl := Option.some.inj refused
        rw [if_pos obstacle]
  | nothing unasked =>
      unfold givenPath at unasked
      simp only [Request.work, plan, planColor, unasked]
      rfl
  | picture unasked null =>
      have refused := (Disk.nullAware_read (d := s.disk)).1 null
      rw [work_of_unreadable unasked refused, if_pos rfl]
      rfl
  | color unasked read failed passed =>
      rw [work_of_color (.picture unasked read), failed, colorWork, passed]
      rfl
  | untaken asked told broken =>
      rw [work_of_color asked, colorWork, told]
      dsimp only
      rw [Work.carryOut, broken]

/-! ## Every request ends -/

/-- A request succeeds, breaks, or ends with code 1. -/
def Ends (s : Session) (stdin : Content) (request : Request) : Prop :=
  Succeeds s stdin request ∨ (∃ fault, Breaks s stdin request fault) ∨
    request.ending s stdin = .code 1

/-- Work that stops with code 1, and says no more than how the program is used, is an end. -/
theorem ends_of_stop {printed : Printed} (silent : printed = .nothing ∨ printed = .usage)
    (work : request.work s stdin = .stop 1 printed) : Ends s stdin request := by
  right; right
  rw [Request.ending, work]
  rcases silent with rfl | rfl <;> rfl

/-- A job that is answered ends, whatever is said to its output. -/
theorem ends_of_answer {j : Job} {source : Content} {a : Answer}
    (comes : j.Comes s stdin source (.ok a)) : Ends s stdin (.job j) := by
  cases named : j.output with
  | none => exact .inr (.inl ⟨_, .unaddressed comes named⟩)
  | some output =>
      obtain ⟨success, work⟩ := deliver_named (c := source) (a := a) named
      by_cases taken : Takes s output (a.content source)
      case pos => exact .inl (.job comes named taken)
      have ending : (Request.job j).ending s stdin =
          ((Work.write output (a.content source) success).carryOut s).1 := by
        rw [Request.ending, comes.work, Job.close, work]
      unfold Takes at taken
      split_ifs at taken with stream
      · right; right
        obtain ⟨b, broken⟩ := Option.ne_none_iff_exists'.mp taken
        rw [ending, Work.carryOut, if_pos stream, broken]
      · cases written : s.disk.write (.ofText output) (a.content source) with
        | mk changed refusal =>
            cases refusal with
            | none => exact absurd (by rw [written]) taken
            | some r =>
                by_cases null : r.obstacle = .nullCharacter
                · obtain ⟨has, met⟩ := (Disk.write_null_iff (c := a.content source)).mp
                    ⟨r, by rw [written], null⟩
                  exact .inr (.inl ⟨_, .output comes named stream has met⟩)
                · right; right
                  rw [ending, Work.carryOut, if_neg stream, written]
                  exact congrArg Prod.fst (if_neg null)

theorem ends_job (j : Job) : Ends s stdin (.job j) := by
  cases named : j.source with
  | none => exact .inr (.inl ⟨_, .unnamed named⟩)
  | some path =>
      cases read : sourceIn s.disk.read stdin path with
      | error r =>
          by_cases null : r.obstacle = .nullCharacter
          · have refused := read
            unfold sourceIn at refused
            split_ifs at refused with stream
            exact .inr (.inl ⟨_, .source named stream (Disk.nullAware_read.2 r refused null)⟩)
          · exact ends_of_stop (.inl rfl) ((work_of_unread named read).trans (if_neg null))
      | ok source =>
          have comes : j.Comes s stdin source (answer s.disk.read s.shelf j source).1 :=
            ⟨⟨path, named, read⟩, rfl⟩
          cases result : (answer s.disk.read s.shelf j source).1 with
          | ok a => exact ends_of_answer (result ▸ comes)
          | error fault =>
              rw [result] at comes
              cases reported : isReported fault with
              | false => exact .inr (.inl ⟨fault, .fault comes reported⟩)
              | true => exact ends_of_stop (.inl rfl) (comes.work.trans (if_pos reported))

/-- A report ends, if the want of a colour does. -/
theorem ends_of_color {source hex : Option String} {color : Outcome Rgb}
    (asked : ColorFor s.disk.read source hex color)
    (breaks : ∀ fault, color = .error fault → fault.isEngine = false →
      Breaks s stdin (.color source hex) fault) : Ends s stdin (.color source hex) := by
  cases color with
  | ok c =>
      obtain ⟨score, before, -, told⟩ := colorText_found c
      cases taken : s.stream (.bytes (before ++ variantLine (.ofScore score)).toUTF8.data) with
      | none => exact .inl (.color asked told taken)
      | some b => exact .inr (.inl ⟨_, .untaken asked told taken⟩)
  | error fault =>
      cases engine : fault.isEngine with
      | false => exact .inr (.inl ⟨fault, breaks fault rfl engine⟩)
      | true => exact ends_of_stop (.inl rfl) ((work_of_color asked).trans (if_pos engine))

theorem ends_color (source hex : Option String) : Ends s stdin (.color source hex) := by
  cases given : givenPath hex with
  | some text =>
      refine ends_of_color (.text given) fun fault failed passed => ?_
      have listed : fault.kind = .hex := List.mem_singleton.mp ((within_ofHex text).kinds fault failed)
      simp [Fault.isEngine, listed] at passed
  | none =>
      cases source with
      | none => exact .inr (.inl ⟨.wrongType, .nothing given⟩)
      | some path =>
          cases read : s.disk.read (.ofText path) with
          | ok content =>
              exact ends_of_color (.picture given read) fun fault failed passed =>
                .color given read failed passed
          | error r =>
              by_cases null : r.obstacle = .nullCharacter
              · exact .inr (.inl ⟨.nullInPath, .picture given (Disk.nullAware_read.2 r read null)⟩)
              · exact ends_of_stop (.inl rfl) ((work_of_unreadable given read).trans (if_neg null))

theorem ends (s : Session) (stdin : Content) (request : Request) : Ends s stdin request := by
  cases request with
  | none =>
      have work : Request.none.work s stdin = .stop 1 .usage := rfl
      exact ends_of_stop (.inr rfl) work
  | job j => exact ends_job j
  | color source hex => exact ends_color source hex

/-! ## What breaks a run -/

/-- Of the kinds that a command can fail with, those that its report passes by. -/
theorem mem_breaking {ks : Fault.Kinds} (listed : fault.kind ∈ ks)
    (passed : fault.isEngine = false) (level : ks.contains .level = false) :
    fault.kind ∈ Fault.Kinds.breaking := by
  unfold Fault.isEngine at passed
  cases kind : fault.kind
  case level =>
    rw [kind, ← List.contains_iff_mem, level] at listed
    cases listed
  all_goals first | decide | simp [kind] at passed

/-- No fault that the engine words breaks a run, and a job breaks for no rejected value
but a null character in a path. -/
theorem kind_of_breaks (broken : Breaks s stdin request fault) :
    fault.kind ∈ Fault.Kinds.breaking ∧
      ∀ j, request = .job j → fault.kind = .value → fault = .nullInPath := by
  have isColor {source hex : Option String} (j : Job) (same : Request.color source hex = .job j) :
      fault.kind = .value → fault = .nullInPath := by
    cases same
  cases broken with
  | unnamed | unaddressed => exact ⟨by decide, fun _ _ => nofun⟩
  | source | output => exact ⟨by decide, fun _ _ _ => rfl⟩
  | picture | nothing | untaken => exact ⟨by decide, isColor⟩
  | fault comes passed =>
      obtain ⟨engine, value⟩ := Bool.or_eq_false_iff.mp passed
      refine ⟨mem_breaking (among_answer fault comes.result) engine (by decide), ?_⟩
      exact fun _ _ isValue => absurd isValue (of_decide_eq_false value)
  | color unasked read failed passed =>
      exact ⟨mem_breaking ((within_colorOf _).kinds fault failed) passed (by decide), isColor⟩

end Command

end Darkroom
