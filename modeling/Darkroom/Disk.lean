/-
# Darkroom.Disk -- files and directories

A `Disk` is the tree below the working directory.  A path is followed name by
name, and every name but the last has to lead to a directory.  What lies above
the working directory is not known; nothing is found there.

Writing a file makes the directories it needs first.  A refusal says what is in
the way, in the words and with the number that the system uses.

A file is emptied before it is written, and the system may break the writing off,
when it has no space left for instance.  Then the file holds what came through.
-/
import Darkroom.Disk.Path
import Darkroom.Encoding
import Darkroom.File.Reader

namespace Darkroom

set_option autoImplicit false

/-- What a file holds: bytes, a picture file taken as read, or one that has been
written. -/
inductive Content
  | bytes (data : Array UInt8)
  | picture (c : Container)
  | written (e : Encoding)

namespace Content

/-- The content as a picture of any kind that can be read. -/
def recognised : Content → Recognised
  | .bytes data => Reader.any data
  | .picture c => some (.ok c.adopted)
  | .written e => .sized e.size.1 e.size.2 e.container

/-- The content as a source of one of the five formats. -/
def opened : Content → Opened
  | .bytes data => Reader.source data
  | c => c.recognised.opened

/-- The name of the kind of file that a content is. -/
def tag? : Content → Option String
  | .written e => some e.format.tag
  | c => c.opened.map (·.tag)

end Content

namespace Disk

inductive Node
  | file (c : Content)
  | directory

/-- Why the system does not do something with a path. -/
inductive Obstacle
  | missing
  | exists_
  | notDirectory
  | isDirectory
  | nameTooLong
  /-- No path may hold a null character. -/
  | nullCharacter
  /-- The writing broke off. -/
  | brokenOff (number : Nat) (words : String)
  /-- Anything else that a system may say. -/
  | other (number : Nat) (words : String)
  deriving DecidableEq, Inhabited, Repr

/-- The number of an obstacle. -/
def Obstacle.number : Obstacle → Nat
  | .missing => 2
  | .exists_ => 17
  | .notDirectory => 20
  | .isDirectory => 21
  | .nameTooLong => 36
  | .nullCharacter => 22
  | .brokenOff number _ | .other number _ => number

def Obstacle.words : Obstacle → String
  | .missing => "No such file or directory"
  | .exists_ => "File exists"
  | .notDirectory => "Not a directory"
  | .isDirectory => "Is a directory"
  | .nameTooLong => "File name too long"
  | .nullCharacter => "Invalid argument"
  | .brokenOff _ words | .other _ words => words

/-- An obstacle on a path. -/
structure Refusal where
  obstacle : Obstacle
  path : Path

def Refusal.message (r : Refusal) : String :=
  let words := "[Errno " ++ toString r.obstacle.number ++ "] " ++ r.obstacle.words
  match r.obstacle with
  | .brokenOff _ _ => words
  | _ => words ++ ": " ++ Text.quoted r.path.text

/-- A writing that the system broke off. -/
structure Break where
  number : Nat
  words : String
  /-- What came through before. -/
  kept : Content

def Break.obstacle (b : Break) : Obstacle := .brokenOff b.number b.words

end Disk

/-- How files are read: what a path holds, or why it cannot be had. -/
abbrev Lookup := Path → Except Disk.Refusal Content

/-- The nodes below the working directory, each with the names that lead to it. -/
structure Disk where
  nodes : List (List String × Disk.Node) := []
  /-- Where the writing of a content into the file of some names breaks off, if it does. -/
  breaks : List String → Content → Option Disk.Break := fun _ _ => none

namespace Disk

/-- The node that names lead to from the working directory. -/
def node? (d : Disk) (names : List String) : Option Node :=
  if names = [] then some .directory else (d.nodes.find? (·.1 = names)).map (·.2)

/-- Where a walk stands: in the tree, or so many directories above it. -/
inductive Place
  | inside (names : List String)
  | above (levels : Nat)
  deriving DecidableEq, Inhabited

/-- The longest name in bytes. -/
def longestName : Nat := 255

/-- One name further from a directory; what it leads to may be missing. -/
def step (place : Place) (name : String) : Place :=
  match place, name with
  | .above n, ".." => .above (n + 1)
  | .above n, _ => .above n
  | .inside [], ".." => .above 1
  | .inside names, ".." => .inside names.dropLast
  | .inside names, name => .inside (names ++ [name])

/-- What stands at a place that `name` led to. -/
def look (d : Disk) (place : Place) (name : String) : Option Node :=
  match place with
  | .inside names => d.node? names
  | .above _ => if name = ".." then some .directory else none

/-- Follow names from a place; every one of them has to lead to a directory. -/
def enter (d : Disk) (place : Place) : List String → Except Obstacle Place
  | [] => .ok place
  | name :: rest =>
      if longestName < name.utf8ByteSize then .error .nameTooLong
      else
        let next := step place name
        match d.look next name with
        | some .directory => enter d next rest
        | some (.file _) => .error .notDirectory
        | none => .error .missing

/-- Where a path starts. -/
def start (p : Path) : Place := if p.root = "" then .inside [] else .above 0

def hasNull (p : Path) : Bool := p.names.any fun name => name.toList.contains '\x00'

/-- Where a path leads, and what is there.  The last name may lead to nothing. -/
def locate (d : Disk) (p : Path) : Except Obstacle (Place × Option Node) :=
  if hasNull p then .error .nullCharacter
  else match p.names.getLast? with
    | none => .ok (start p, some .directory)
    | some name => do
        let place ← d.enter (start p) p.names.dropLast
        if longestName < name.utf8ByteSize then .error .nameTooLong
        else
          let next := step place name
          return (next, d.look next name)

/-- The content of a file. -/
def read (d : Disk) : Lookup := fun p =>
  match d.locate p with
  | .error o => .error ⟨o, p⟩
  | .ok (_, some (.file c)) => .ok c
  | .ok (_, some .directory) => .error ⟨.isDirectory, p⟩
  | .ok (_, none) => .error ⟨.missing, p⟩

/-- The disk with a node at a place of the tree. -/
def put (d : Disk) (names : List String) (n : Node) : Disk :=
  { d with nodes := (names, n) :: d.nodes.filter (·.1 ≠ names) }

def remove (d : Disk) (p : Path) : Disk :=
  { d with nodes := d.nodes.filter (·.1 ≠ p.names) }

/-- Make one directory. -/
def makeDirectory (d : Disk) (p : Path) : Except Refusal Disk :=
  match d.locate p with
  | .error o => .error ⟨o, p⟩
  | .ok (_, some _) => .error ⟨.exists_, p⟩
  | .ok (.inside names, none) => .ok (d.put names .directory)
  | .ok (.above _, none) => .error ⟨.missing, p⟩

def isDirectory (d : Disk) (p : Path) : Bool :=
  match d.locate p with
  | .ok (_, some .directory) => true
  | _ => false

/-- The disk after an attempt that changes nothing when it is refused. -/
def attempt (d : Disk) : Except Refusal Disk → Disk × Option Refusal
  | .ok changed => (changed, none)
  | .error r => (d, some r)

/-- Make a directory unless there is one already. -/
def ensureDirectory (d : Disk) (p : Path) : Except Refusal Disk :=
  match d.makeDirectory p with
  | .ok d => .ok d
  | .error r => if r.obstacle ≠ .nullCharacter && d.isDirectory p then .ok d else .error r

/-- Make a directory and those above it; `names` are its names, last one first.
The directories made before a refusal stay. -/
def ensureDirectories (d : Disk) (root : String) : List String → Disk × Option Refusal
  | [] => d.attempt (d.ensureDirectory ⟨root, []⟩)
  | name :: above =>
      let p : Path := ⟨root, (name :: above).reverse⟩
      match d.makeDirectory p with
      | .ok d => (d, none)
      | .error r =>
          if r.obstacle = .missing then
            match ensureDirectories d root above with
            | (made, some refusal) => (made, some refusal)
            | (made, none) => made.attempt (made.ensureDirectory p)
          else d.attempt (d.ensureDirectory p)

/-- Put a content into a file; where that breaks off, what came through. -/
def fill (d : Disk) (p : Path) (names : List String) (c : Content) : Disk × Option Refusal :=
  match d.breaks names c with
  | none => (d.put names (.file c), none)
  | some b => (d.put names (.file b.kept), some ⟨b.obstacle, p⟩)

/-- Write a file whose directory is there. -/
def writeFile (d : Disk) (p : Path) (c : Content) : Disk × Option Refusal :=
  match d.locate p with
  | .error o => (d, some ⟨o, p⟩)
  | .ok (_, some .directory) => (d, some ⟨.isDirectory, p⟩)
  | .ok (.inside names, _) => d.fill p names c
  | .ok (.above _, _) => (d, some ⟨.missing, p⟩)

/-- Write a file, with the directories it needs.  The directories made before a
refusal stay. -/
def write (d : Disk) (p : Path) (c : Content) : Disk × Option Refusal :=
  match d.ensureDirectories p.root p.parent.names.reverse with
  | (made, some r) => (made, some r)
  | (made, none) => made.writeFile p c

/-- The files with their paths, sorted. -/
def files (d : Disk) : List (String × Content) :=
  (d.nodes.filterMap fun n => match n.2 with
    | .file c => some ("/".intercalate n.1, c)
    | .directory => none).mergeSort fun a b => a.1 ≤ b.1

end Disk

end Darkroom
