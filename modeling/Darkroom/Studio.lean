/-
# Darkroom.Studio -- an engine between its files

A studio is a disk, a shelf of marks, and an engine that was given no marks of
its own.  One act at a time, files come and go, marks are loaded or put together,
the standard marks are asked for or forgotten, and requests are answered; each
act yields what came of it.  The standard marks are asked for by name, or by a
request with a JPEG picture as its answer.
-/
import Darkroom.Engine

namespace Darkroom

set_option autoImplicit false

structure Studio where
  disk : Disk := {}
  shelf : Shelf := {}

namespace Studio

inductive Act
  | write (path : Path) (content : Content)
  | makeDirectories (path : Path)
  | remove (path : Path)
  /-- Forget the standard marks. -/
  | clear
  /-- Load the marks in two files. -/
  | load (plain colored : String)
  /-- Make marks of two pictures. -/
  | assemble (plain colored : Raster)
  | standard
  | request (source : Opened) (operation : Value) (o : Options)

/-- What came of an act. -/
inductive Yield
  | nothing
  | holding (h : Outcome Holding)
  | answer (a : Logged Answer)

/-- Marks that were made come with the shelf that counts them; a failure leaves
the shelf as it was. -/
def hold (s : Studio) (made : Outcome (Holding × Shelf)) : Yield × Studio :=
  match made with
  | .ok (h, shelf) => (.holding (.ok h), { s with shelf := shelf })
  | .error fault => (.holding (.error fault), s)

def act (s : Studio) : Act → Yield × Studio
  | .write path content => (.nothing, { s with disk := (s.disk.write path content).1 })
  | .makeDirectories path =>
      (.nothing, { s with disk := (s.disk.ensureDirectories path.root path.names.reverse).1 })
  | .remove path => (.nothing, { s with disk := s.disk.remove path })
  | .clear => (.nothing, { s with shelf := s.shelf.clear })
  | .load plain colored => s.hold (s.shelf.load s.disk.read plain colored).outcome
  | .assemble plain colored => s.hold do return s.shelf.adopt (← Marks.ofRasters plain colored)
  | .standard => s.hold (s.shelf.standard s.disk.read).outcome
  | .request source operation o =>
      let (answer, shelf) := Engine.transform none s.shelf s.disk.read source operation o
      (.answer answer, { s with shelf := shelf })

/-- The studio after some acts, one after another. -/
def after (s : Studio) (acts : List Act) : Studio := acts.foldl (fun s a => (s.act a).2) s

end Studio

end Darkroom
