/-
# Darkroom.Main -- the program

The files that a request may read are read first; the plan of the run is made
from them, and then carried out.  Lines of the log go to standard error, so that
a picture can be written to standard output.
-/
import Darkroom.Command.Files
import Darkroom.Command.Usage

namespace Darkroom.Program

set_option autoImplicit false

/-- The number of an error, which some parts of the system write as a negative one
in 32 bits. -/
def errorNumber (n : UInt32) : Nat := if n.toNat < 0x80000000 then n.toNat else 0x100000000 - n.toNat

/-- The number and the words of an error of the system. -/
def errorParts : IO.Error → Nat × String
  | .alreadyExists _ n words | .otherError n words | .resourceBusy n words
  | .resourceVanished n words | .unsupportedOperation n words | .hardwareFault n words
  | .unsatisfiedConstraints n words | .illegalOperation n words | .protocolError n words
  | .timeExpired n words | .interrupted _ n words | .noFileOrDirectory _ n words
  | .invalidArgument _ n words | .permissionDenied _ n words | .resourceExhausted _ n words
  | .inappropriateType _ n words | .noSuchThing _ n words => (errorNumber n, words)
  | .unexpectedEof => (5, "unexpected end of file")
  | .userError words => (5, words)

/-- The obstacle that an error of the system stands for. -/
def obstacleOf (e : IO.Error) : Disk.Obstacle :=
  let (number, words) := errorParts e
  let known : List Disk.Obstacle := [.missing, .exists_, .notDirectory, .isDirectory, .nameTooLong]
  (known.find? (·.number = number)).getD (.other number words)

/-- Do something with a path, or say what is in the way. -/
def attempted {α : Type} (path : Path) (action : IO α) : IO (Except Disk.Refusal α) := do
  if Disk.hasNull path then return .error ⟨.nullCharacter, path⟩
  match ← action.toBaseIO with
  | .ok a => return .ok a
  | .error e => return .error ⟨obstacleOf e, path⟩

/-- What the system holds under a path. -/
def readPath (text : String) : IO (Path × Except Disk.Refusal Content) := do
  let path := Path.ofText text
  let found ← attempted path (IO.FS.readBinFile path.text)
  return (path, found.map fun bytes => .bytes bytes.data)

/-- Read to the end of a stream. -/
partial def readAll (stream : IO.FS.Stream) (done : ByteArray) : IO ByteArray := do
  let part ← stream.read 65536
  if part.isEmpty then return done else readAll stream (done ++ part)

/-- Write to something that is open, or say what broke that off. -/
def written (path : Path) (action : IO Unit) : IO (Option Disk.Refusal) := do
  match ← action.toBaseIO with
  | .ok () => return none
  | .error e =>
      let (number, words) := errorParts e
      return some ⟨.brokenOff number words, path⟩

/-- Write a file with the directories that it needs. -/
def writePath (text : String) (content : Content) : IO (Option Disk.Refusal) := do
  let path := Path.ofText text
  let made ← attempted path.parent (IO.FS.createDirAll path.parent.text)
  match made with
  | .error r => return some r
  | .ok () => match ← attempted path (IO.FS.Handle.mk path.text .write) with
    | .ok file => written path (do file.write ⟨content.file⟩; file.flush)
    | .error r => return some r

/-- Write to standard output. -/
def writeStream (content : Content) : IO (Option Disk.Refusal) := do
  let stdout ← IO.getStdout
  written (.ofText Command.standardStream) (do stdout.write ⟨content.file⟩; stdout.flush)

/-- Write lines of the log. -/
def say (level : Log.Level) (lines : List Command.Line) : IO Unit := do
  for line in Command.visible level lines do
    IO.eprintln (line.shown fun content => toString content.file.size)

/-- Say that a run breaks. -/
def break_ (f : Fault) : IO UInt32 := do
  IO.eprintln ("error: " ++ f.message)
  return 1

/-- Print a usage.  That it is not taken makes no difference. -/
def printUsage (usage : String) : IO Unit := do
  let _ ← (IO.println usage).toBaseIO

/-- Print what a run prints, and say whether it was taken. -/
def print (printed : Command.Printed) : IO Bool := do
  match printed with
  | .nothing => return true
  | .usage =>
      printUsage Command.mainGrammar.usage
      return true
  | .text s => return (← writeStream (.bytes s.toUTF8.data)).isNone
  | .content c => return (← writeStream c).isNone

/-- Carry out what is left to do. -/
def carryOut (level : Log.Level) (work : Command.Work) : IO UInt32 := do
  match work with
  | .stop code printed =>
      if ← print printed then return UInt32.ofNat code else break_ .unprintable
  | .break_ f => break_ f
  | .write output content success =>
      let refused ←
        if output = Command.standardStream then writeStream content else writePath output content
      match refused with
      | none =>
          say level [success]
          return 0
      | some r =>
          if r.obstacle = .nullCharacter then break_ .nullInPath
          else
            say level [.unwritable output r]
            return 1

/-- Say why a command line is not carried out. -/
def stopped (s : Command.Stop) : IO UInt32 := do
  match s.complaint? with
  | none => printUsage s.usage
  | some complaint =>
      IO.eprintln s.usage
      IO.eprintln complaint
  return UInt32.ofNat s.code

/-- Plan a request from the files it may read, and carry the plan out. -/
def perform (level : Log.Level) (request : Command.Request) : IO UInt32 := do
  let stdin ← if request.readsStandardInput then readAll (← IO.getStdin) .empty else pure .empty
  let files ← request.paths.mapM readPath
  let (plan, _) := Command.plan (Lookup.ofList files) {} (.bytes stdin.data) request
  say level plan.lines
  carryOut level plan.work

end Darkroom.Program

def main (arguments : List String) : IO UInt32 := do
  let environment ← IO.getEnv Darkroom.Command.levelVariable
  match Darkroom.Command.Invocation.parse arguments environment with
  | .error stop => Darkroom.Program.stopped stop
  | .ok invocation => match Darkroom.Log.Level.ofWish invocation.wish with
    | .error f => Darkroom.Program.break_ f
    | .ok level => Darkroom.Program.perform level invocation.request
