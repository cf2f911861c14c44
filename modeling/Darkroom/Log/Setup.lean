/-
# Darkroom.Log.Setup -- which entries a log shows

The level of a log is settled from three sources.  A level that is asked for by
name wins; otherwise the balance of the two counting flags does; and where the
flags cancel out, the name in the environment, if it is one.

A `Setup` is the state of the log: the level at its root, the levels of its
handlers, and the level of the picture library below it, which is never more
talkative than `info`.  A name that is no level leaves the state as it was.
-/
import Darkroom.Log

namespace Darkroom.Log

set_option autoImplicit false

/-- What a caller says about the level. -/
structure Wish where
  /-- A level by name, in letters of either case. -/
  name : Option String := none
  verbose : Int := 0
  quiet : Int := 0
  /-- The name that the environment gives. -/
  environment : Option String := none
  deriving DecidableEq

namespace Level

/-- The level of a name in letters of either case.  Only the letters A to Z
matter, since no other character has a small letter of a level name. -/
def ofText? (name : String) : Option Level :=
  ofName? (String.ofList (name.toList.map Char.toLower))

/-- The level when the flags cancel out. -/
def ofEnvironment (name : Option String) : Level := (name.bind ofText?).getD .info

/-- The level for a balance of the flags that is not zero. -/
def ofBalance (balance : Int) : Level :=
  if 1 ≤ balance then .debug else if balance = -1 then .warning else .error

/-- The level that a wish comes to; a name that is no level is refused. -/
def ofWish (w : Wish) : Outcome Level :=
  match w.name.filter fun name => !name.isEmpty with
  | some name => match ofText? name with
    | some level => .ok level
    | none => .error (.unknownLevel name)
  | none =>
      let balance := w.verbose - w.quiet
      .ok (if balance = 0 then ofEnvironment w.environment else ofBalance balance)

end Level

structure Setup where
  /-- The weight below which nothing is shown. -/
  root : Nat := 30
  handlers : List Nat := []
  /-- The weight below which the picture library says nothing. -/
  library : Nat := 0
  deriving DecidableEq, Inhabited

namespace Setup

/-- The state with a level; a log without handlers gets one that shows all it
is given. -/
def withLevel (s : Setup) (level : Level) : Setup where
  root := level.weight
  handlers := if s.handlers = [] then [0] else s.handlers.map fun _ => level.weight
  library := max level.weight Level.info.weight

/-- Carry out a wish: the level it comes to, and the new state. -/
def configure (s : Setup) (w : Wish) : Outcome Level × Setup :=
  match Level.ofWish w with
  | .ok level => (.ok level, s.withLevel level)
  | .error f => (.error f, s)

end Setup

end Darkroom.Log
