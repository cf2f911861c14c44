/-
# Darkroom.Disk.Path -- names of files

A path is a run of names between slashes.  Empty names and single dots count
for nothing; two dots are kept, since what they lead to depends on what is
there.  The suffix of a path is what its last name has from the last dot on,
when there is something on both sides of that dot.
-/

namespace Darkroom

set_option autoImplicit false

structure Path where
  /-- The slashes that an absolute path begins with. -/
  root : String
  names : List String
  deriving DecidableEq, Inhabited

namespace Path

/-- The runs of characters between slashes. -/
def splitSlashes : List Char → List (List Char)
  | [] => [[]]
  | c :: cs =>
      if c = '/' then [] :: splitSlashes cs
      else match splitSlashes cs with
        | [] => [[c]]
        | name :: rest => (c :: name) :: rest

/-- The names that count. -/
def namesOf (cs : List Char) : List String :=
  ((splitSlashes cs).filter fun name => name ≠ [] && name ≠ ['.']).map String.ofList

/-- One slash in front, or more than two, is one root; two are a root of their own. -/
def rootOf : List Char → String
  | '/' :: '/' :: '/' :: _ => "/"
  | '/' :: '/' :: _ => "//"
  | '/' :: _ => "/"
  | _ => ""

def ofText (s : String) : Path := ⟨rootOf s.toList, namesOf s.toList⟩

/-- The path as it is shown: a single dot when nothing is left of it. -/
def text (p : Path) : String :=
  if p.root = "" ∧ p.names = [] then "." else p.root ++ "/".intercalate p.names

/-- The path without its last name. -/
def parent (p : Path) : Path := { p with names := p.names.dropLast }

/-- What a name has from its last dot on: the dot and the characters after it. -/
def suffixOf (name : List Char) : List Char :=
  let after := name.reverse.takeWhile (· ≠ '.')
  let before := name.length - after.length - 1
  if 0 < before ∧ after ≠ [] ∧ name.contains '.' then '.' :: after.reverse else []

def suffix (p : Path) : String :=
  match p.names.getLast? with
  | some name => String.ofList (suffixOf name.toList)
  | none => ""

end Path

end Darkroom
