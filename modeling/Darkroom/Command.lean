/-
# Darkroom.Command -- running a command line

A command line is planned first: everything is read and computed, and what is
left to do is at most one thing to print or to write.  `run` carries the plan
out on a `Disk`.

Whatever the engine refuses, and every value that it rejects, is reported as a
line of the log and ends the run with code 1; so does a file that cannot be
read or written, and a picture that standard output does not take.  Other failures
break the run.
-/
import Darkroom.Command.Request
import Darkroom.Engine
import Darkroom.Watermark.Report

namespace Darkroom.Command

set_option autoImplicit false

/-- The name that stands for standard input and standard output. -/
def standardStream : String := "-"

/-! ## What a run says -/

inductive Line
  | engine (e : Log.Entry)
  /-- The suffix of an output is no format; the format of the source is kept. -/
  | unknownSuffix (suffix : String)
  | passedThrough (operation : Operation) (content : Content)
  | wrote (operation : Operation) (content : Content) (output : String)
  | unreadable (source : String) (r : Disk.Refusal)
  | failed (operation : Operation) (f : Fault)
  | unwritable (output : String) (r : Disk.Refusal)
  | colorUnreadable (source : String) (r : Disk.Refusal)
  | colorFailed (f : Fault)

namespace Line

def level : Line → Log.Level
  | .engine e => e.level
  | .unknownSuffix _ => .debug
  | .passedThrough _ _ | .wrote _ _ _ => .info
  | _ => .error

def origin : Line → String
  | .engine e => e.origin
  | .colorUnreadable _ _ | .colorFailed _ => "cli.color"
  | _ => "cli.transform"

private def cannot (what path : String) (r : Disk.Refusal) : String :=
  "Cannot " ++ what ++ " " ++ path ++ ": " ++ r.message

/-- The wording of a line; `size` gives the number of bytes of a content. -/
def text (size : Content → String) : Line → String
  | .engine e => e.text
  | .unknownSuffix suffix => "Unknown output extension " ++ suffix ++ ", keeping source format"
  | .passedThrough o c =>
      o.name ++ ": source passed through unchanged (" ++ size c ++ " bytes)"
  | .wrote o c output => o.name ++ ": wrote " ++ size c ++ " bytes to " ++ output
  | .unreadable source r | .colorUnreadable source r => cannot "read" source r
  | .failed o f => o.name ++ " failed: " ++ f.message
  | .unwritable output r => cannot "write" output r
  | .colorFailed f => f.message

/-- The line as the log shows it. -/
def shown (size : Content → String) (l : Line) : String :=
  l.level.name.toUpper ++ " " ++ l.origin ++ ": " ++ l.text size

end Line

/-! ## Planning -/

inductive Printed
  | nothing
  | usage
  | text (s : String)
  | content (c : Content)

/-- What is left to do. -/
inductive Work
  | stop (code : Nat) (printed : Printed)
  | write (output : String) (content : Content) (success : Line)
  /-- A failure that nothing reports. -/
  | break_ (f : Fault)

structure Plan where
  lines : List Line
  work : Work
  /-- What was handed to the writer of a format. -/
  encoding : Option Encoding := none

/-- The format of an output: the one asked for, or else the one that its suffix
names, if it names one. -/
def outputFormat (asked : Option String) (output : String) : Outcome (Option Format) × List Line :=
  match asked.filter fun name => !name.isEmpty with
  | some name => ((Format.ofName (.text name)).map some, [])
  | none =>
      let suffix := (Path.ofText output).suffix
      if output = standardStream ∨ suffix = "" then (.ok none, [])
      else match Format.ofKey? (Format.nameKey suffix) with
        | some f => (.ok (some f), [])
        | none => (.ok none, [.unknownSuffix suffix])

/-- The format of a job.  An output without a value has no suffix to look at. -/
def Job.outputFormat (j : Job) : Outcome (Option Format) × List Line :=
  match j.output with
  | some output => Command.outputFormat j.format output
  | none =>
      if (j.format.filter fun name => !name.isEmpty).isSome then Command.outputFormat j.format ""
      else (.error .wrongType, [])

/-- The options of the request that a job makes.  An argument without a value is a
list without items there. -/
def optionsOf (j : Job) (format : Option Format) : Options :=
  let whole := fun (n : Option Int) => (n.map fun n => Value.number (.int n)).getD (.list [])
  { width := whole j.width
    height := whole j.height
    upscale := .flag j.upscale
    format := match format with
      | some f => .format f
      | none => .unset
    quality := whole j.quality
    degree := whole j.degree
    position := (j.position.map Value.text).getD (.list []) }

/-- A path that was given and is not empty. -/
def givenPath (path : Option String) : Option String := path.filter fun p => !p.isEmpty

/-- The marks that were asked for, if any were; the standard file stands in for
one that was not. -/
def marksOf (look : Lookup) (j : Job) : Logged (Option Marks) :=
  match givenPath j.watermark, givenPath j.coloredWatermark with
  | none, none => return none
  | plain, colored => do
      return some (← Marks.load look (plain.getD Marks.plainPath)
        (colored.getD Marks.coloredPath))

/-- Whether a failure is reported by a line, and not left to break the run. -/
def isReported (f : Fault) : Bool := f.isEngine || f.kind = .value

/-- The answer to a job on a source that has been read. -/
def answer (look : Lookup) (shelf : Shelf) (j : Job) (source : Content) :
    Outcome Answer × List Line × Shelf :=
  let (format, said) := j.outputFormat
  match format with
  | .error f => (.error f, said, shelf)
  | .ok format =>
      let marks := marksOf look j
      let said := said ++ marks.entries.map .engine
      match marks.outcome with
      | .error f => (.error f, said, shelf)
      | .ok marks =>
          let (result, shelf) := Engine.transform marks shelf look source.opened
            (.text j.operation.name) (optionsOf j format)
          (result.outcome, said ++ result.entries.map .engine, shelf)

/-- A content of a path, or why the path cannot be read. -/
def readFile (look : Lookup) (path : String) : Except Disk.Refusal Content :=
  look (.ofText path)

/-- What becomes of a file that cannot be read. -/
def unreadWork (r : Disk.Refusal) (line : Line) : Plan :=
  if r.obstacle = .nullCharacter then ⟨[], .break_ .nullInPath, none⟩
  else ⟨[line], .stop 1 .nothing, none⟩

/-- What is left to do with an answer; an output without a value is no path. -/
def deliver (j : Job) (source : Content) (a : Answer) : Work :=
  match j.output with
  | none => .break_ .wrongType
  | some output => match a with
    | .unchanged => .write output source (.passedThrough j.operation source)
    | .encoded e => .write output (.written e) (.wrote j.operation (.written e) output)

/-- The plan for a job on a source that has been read. -/
def planAnswer (look : Lookup) (shelf : Shelf) (j : Job) (source : Content) : Plan × Shelf :=
  let (result, said, shelf) := answer look shelf j source
  (match result with
    | .error f =>
        if isReported f then ⟨said ++ [.failed j.operation f], .stop 1 .nothing, none⟩
        else ⟨said, .break_ f, none⟩
    | .ok a => ⟨said, deliver j source a, a.encoding?⟩,
    shelf)

def planJob (look : Lookup) (shelf : Shelf) (stdin : Content) (j : Job) : Plan × Shelf :=
  match j.source with
  | none => (⟨[], .break_ .wrongType, none⟩, shelf)
  | some source =>
      if source = standardStream then planAnswer look shelf j stdin
      else match readFile look source with
        | .error r => (unreadWork r (.unreadable source r), shelf)
        | .ok content => planAnswer look shelf j content

/-- The colour that a report is about. -/
def colorOf (source : Opened) : Logged Rgb := do
  let (picture, _) ← source.still
  let dominant ← Watermark.dominant picture Dominant.defaultClusters Dominant.defaultSample
  return dominant.color

/-- The report on a colour as it is printed. -/
def colorText (c : Rgb) : Outcome String := do
  return String.join ((← (Swatch.ofRgb c).report).map fun f => f.1 ++ ": " ++ f.2 ++ "\n")

/-- The plan for a colour that was asked for or found. -/
def planReport (color : Logged Rgb) : Plan :=
  let said := color.entries.map Line.engine
  match color.outcome with
  | .error f =>
      if f.isEngine then ⟨said ++ [.colorFailed f], .stop 1 .nothing, none⟩
      else ⟨said, .break_ f, none⟩
  | .ok c => match colorText c with
    | .ok text => ⟨said, .stop 0 (.text text), none⟩
    | .error f => ⟨said, .break_ f, none⟩

def planColor (look : Lookup) (source hex : Option String) : Plan :=
  match hex.filter fun text => !text.isEmpty with
  | some text => planReport ⟨Rgb.ofHex (.text text), []⟩
  | none => match source with
    | none => ⟨[], .break_ .wrongType, none⟩
    | some source => match readFile look source with
      | .error r => unreadWork r (.colorUnreadable source r)
      | .ok content => planReport (colorOf content.opened)

def plan (look : Lookup) (shelf : Shelf) (stdin : Content) : Request → Plan × Shelf
  | .none => (⟨[], .stop 1 .usage, none⟩, shelf)
  | .job j => planJob look shelf stdin j
  | .color source hex => (planColor look source hex, shelf)

/-! ## Running -/

/-- What a program that runs keeps, and where it prints. -/
structure Session where
  disk : Disk := {}
  shelf : Shelf := {}
  /-- Where the printing of a content breaks off, if it does. -/
  stream : Content → Option Disk.Break := fun _ => none

inductive Ending
  /-- The command line asks for help or makes no sense. -/
  | stopped (s : Stop)
  | code (n : Nat)
  /-- The run breaks. -/
  | broken (f : Fault)

structure Report where
  ending : Ending
  /-- The lines that the log shows. -/
  lines : List Line := []
  printed : Printed := .nothing
  encoding : Option Encoding := none

/-- The lines that a log of a level shows. -/
def visible (level : Log.Level) (lines : List Line) : List Line :=
  lines.filter fun l => level.weight ≤ l.level.weight

/-- Carry out what is left to do.  That a report cannot be printed is not reported. -/
def Work.carryOut (w : Work) (s : Session) : Ending × List Line × Printed × Disk :=
  match w with
  | .stop code (.text text) => match s.stream (.bytes text.toUTF8.data) with
    | none => (.code code, [], .text text, s.disk)
    | some b => (.broken .unprintable, [], .content b.kept, s.disk)
  | .stop code printed => (.code code, [], printed, s.disk)
  | .break_ f => (.broken f, [], .nothing, s.disk)
  | .write output content success =>
      if output = standardStream then
        match s.stream content with
        | none => (.code 0, [success], .content content, s.disk)
        | some b =>
            (.code 1, [.unwritable output ⟨b.obstacle, .ofText output⟩], .content b.kept, s.disk)
      else match s.disk.write (.ofText output) content with
        | (disk, none) => (.code 0, [success], .nothing, disk)
        | (disk, some r) =>
            if r.obstacle = .nullCharacter then (.broken .nullInPath, [], .nothing, disk)
            else (.code 1, [.unwritable output r], .nothing, disk)

/-- Run a command line. -/
def run (s : Session) (stdin : Content) (environment : Option String) (arguments : List String) :
    Report × Session :=
  match Invocation.parse arguments environment with
  | .error stop => (⟨.stopped stop, [], if stop.code = 0 then .usage else .nothing, none⟩, s)
  | .ok invocation => match Log.Level.ofWish invocation.wish with
    | .error f => (⟨.broken f, [], .nothing, none⟩, s)
    | .ok level =>
        let (plan, shelf) := plan s.disk.read s.shelf stdin invocation.request
        let (ending, more, printed, disk) := plan.work.carryOut s
        (⟨ending, visible level (plan.lines ++ more), printed, plan.encoding⟩,
          { s with disk := disk, shelf := shelf })

end Darkroom.Command
