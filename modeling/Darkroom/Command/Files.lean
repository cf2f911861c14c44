/-
# Darkroom.Command.Files -- the files of a run

A request names all files that it may read, so that they can be read before the
run is planned.  What a run writes is turned into bytes last.
-/
import Darkroom.Command
import Darkroom.File.Writer

namespace Darkroom

set_option autoImplicit false

/-- Files that have been read beforehand; all others are missing. -/
def Lookup.ofList (files : List (Path × Except Disk.Refusal Content)) : Lookup := fun p =>
  (files.lookup p).getD (.error ⟨.missing, p⟩)

/-- The bytes of a content.  A picture that is taken as read has none. -/
def Content.file : Content → Bytes
  | .bytes data => data
  | .picture _ => #[]
  | .written e => e.bytes

namespace Command

/-- The marks that a job may read: those that it names and the standard ones. -/
def Job.markPaths (j : Job) : List String :=
  [(givenPath j.watermark).getD Marks.plainPath,
    (givenPath j.coloredWatermark).getD Marks.coloredPath, Marks.plainPath, Marks.coloredPath]

/-- The files that a request may read. -/
def Request.paths : Request → List String
  | .none => []
  | .job j => j.source.toList.filter (· ≠ standardStream) ++ j.markPaths
  | .color source hex => if (givenPath hex).isSome then [] else source.toList

/-- Whether a request reads standard input. -/
def Request.readsStandardInput : Request → Bool
  | .job j => j.source = some standardStream
  | _ => false

end Command

end Darkroom
