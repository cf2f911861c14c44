/-
# Darkroom.Command.Usage -- how a program is called, in one line
-/
import Darkroom.Command.Request

namespace Darkroom.Command

set_option autoImplicit false

/-- The choices of an argument in braces. -/
def braced (choices : List String) : String := "\x7b" ++ ",".intercalate choices ++ "\x7d"

/-- What stands for the value of a switch. -/
def Switch.valueName (s : Switch) : Option String :=
  match s.effect with
  | .store (.choice of) => some (braced of)
  | .store _ => some s.name.toUpper
  | _ => none

/-- A switch with its value; brackets say that it may be left off. -/
def Switch.usage (s : Switch) : String :=
  let flag := s.flags.headD s.name
  let text := match s.valueName with
    | some value => flag ++ " " ++ value
    | none => flag
  if s.required then text else "[" ++ text ++ "]"

def Place.usage (p : Place) : String :=
  match p.arity with
  | .one => p.name
  | .optional => "[" ++ p.name ++ "]"
  | .command names => braced names ++ " ..."

/-- The line that says how a program is called. -/
def Grammar.usage (g : Grammar) : String :=
  " ".intercalate ("usage:" :: g.program :: (g.switches.map Switch.usage ++ g.places.map Place.usage))

/-- All grammars of the program. -/
def grammars : List Grammar := mainGrammar :: colorGrammar :: Operation.all.map operationGrammar

/-- How the program of a stop is called. -/
def Stop.usage (s : Stop) : String :=
  ((grammars.find? (·.program == s.program)).getD mainGrammar).usage

end Darkroom.Command
