/-
# Darkroom.Command.Request -- the command line of the program

The program has one command for each operation, which reads a picture and
writes another, and one that reports on a colour.  Switches in front of the
command settle how much the log says.
-/
import Darkroom.Command.Grammar
import Darkroom.Log.Setup
import Darkroom.Operation

namespace Darkroom.Command

set_option autoImplicit false

/-- The arguments of a command that writes a picture.  One without a value is
nothing; where that has the same effect, one that was not given is nothing too. -/
structure Job where
  operation : Operation
  source : Option String
  output : Option String
  format : Option String
  quality : Option Int
  watermark : Option String
  coloredWatermark : Option String
  width : Option Int
  height : Option Int
  upscale : Bool
  degree : Option Int
  position : Option String
  deriving DecidableEq

inductive Request
  /-- No command at all. -/
  | none
  | job (j : Job)
  /-- A report on the colour of a picture, or on a colour. -/
  | color (source hex : Option String)
  deriving DecidableEq

/-- What a command line asks for. -/
structure Invocation where
  wish : Log.Wish
  request : Request
  deriving DecidableEq

/-! ## The grammars -/

def programName : String := "picforge"

/-- The variable of the environment that gives the level of the log. -/
def levelVariable : String := "PICFORGE_LOG_LEVEL"

def helpSwitch : Switch := ⟨"help", ["-h", "--help"], .help, false⟩

def colorCommand : String := "color"

def commandNames : List String := Operation.all.map (·.name) ++ [colorCommand]

def mainGrammar : Grammar where
  program := programName
  switches := [
    helpSwitch,
    ⟨"log_level", ["--log-level"], .store (.choice (Log.Level.all.map (·.name))), false⟩,
    ⟨"verbose", ["-v", "--verbose"], .count, false⟩,
    ⟨"quiet", ["-q", "--quiet"], .count, false⟩]
  places := [⟨"command", .command commandNames⟩]

/-- The switches of every command that writes a picture. -/
def fileSwitches : List Switch := [
  helpSwitch,
  ⟨"format", ["-f", "--format"], .store .text, false⟩,
  ⟨"quality", ["--quality"], .store .whole, false⟩,
  ⟨"watermark", ["--watermark"], .store .text, false⟩,
  ⟨"watermark_colored", ["--watermark-colored"], .store .text, false⟩]

/-- The switches of one operation. -/
def operationSwitches : Operation → List Switch
  | .rotate => [⟨"degree", ["-d", "--degree"], .store .whole, true⟩]
  | .flip => [⟨"position", ["-p", "--position"], .store .text, true⟩]
  | .resize | .thumbnail | .fit => [
      ⟨"width", ["-W", "--width"], .store .whole, false⟩,
      ⟨"height", ["-H", "--height"], .store .whole, false⟩,
      ⟨"upscale", ["--upscale"], .turnOn, false⟩]

def operationGrammar (o : Operation) : Grammar where
  program := programName ++ " " ++ o.name
  switches := fileSwitches ++ operationSwitches o
  places := [⟨"source", .one⟩, ⟨"output", .one⟩]

def colorGrammar : Grammar where
  program := programName ++ " " ++ colorCommand
  switches := [helpSwitch, ⟨"hex", ["--hex"], .store .text, false⟩]
  places := [⟨"source", .optional⟩]
  rivals := ["source", "hex"]

/-! ## Reading -/

/-- The quality of JPEG pictures unless the caller asks for another. -/
def defaultQuality : Int := 95

/-- A value with a default; nothing when it was given without one. -/
def Progress.valueOr {α : Type} (p : Progress) (name : String) (value? : Option α) (default : α) :
    Option α :=
  match p.find? name with
  | some .void => none
  | _ => some (value?.getD default)

def jobOf (o : Operation) (p : Progress) : Job :=
  let text := fun name => p.valueOr name (p.text? name) ""
  let whole := fun name default => p.valueOr name (p.whole? name) default
  { operation := o
    source := text "source"
    output := text "output"
    format := p.text? "format"
    quality := whole "quality" defaultQuality
    watermark := p.text? "watermark"
    coloredWatermark := p.text? "watermark_colored"
    width := whole "width" 0
    height := whole "height" 0
    upscale := p.isOn "upscale"
    degree := whole "degree" 0
    position := text "position" }

/-- The request of a command, and the arguments that it does not take. -/
def requestOf (name : String) (arguments : List String) : Except Stop (Request × List String) :=
  match Operation.ofName? name with
  | some o => do
      let p ← (operationGrammar o).parse arguments
      return (.job (jobOf o p), p.extras)
  | none => do
      let p ← colorGrammar.parse arguments
      return (.color (p.text? "source") (p.text? "hex"), p.extras)

/-- Read a command line; `environment` is the level of the log that the
environment gives. -/
def Invocation.parse (arguments : List String) (environment : Option String) :
    Except Stop Invocation := do
  let p ← mainGrammar.parse arguments
  let (request, extras) ← match p.find? "command" with
    | some (.command name rest) => requestOf name rest
    | _ => .ok (.none, [])
  let extras := p.extras ++ extras
  if extras ≠ [] then
    mainGrammar.stop ("unrecognized arguments: " ++ " ".intercalate extras)
  else
    return ⟨⟨p.text? "log_level", p.count "verbose", p.count "quiet", environment⟩, request⟩

end Darkroom.Command
