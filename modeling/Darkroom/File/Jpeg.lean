/-
# Darkroom.File.Jpeg -- reading JPEG files

A JPEG file is a row of marked parts: tables, a frame that says how large the
picture is and how its components are stored, and scans with their coefficients.
The file is recognised when everything up to the first scan is there.

Baseline files with one component (gray) or three are read; of other files only
the head is.
-/
import Darkroom.File.Jpeg.Plane
import Darkroom.File.Jpeg.Scan
import Darkroom.File.Samples

namespace Darkroom

set_option autoImplicit false

namespace Jpeg

/-- One component of a frame. -/
structure Component where
  number : Nat
  /-- How many samples it has across and down where the coarsest has one. -/
  across : Nat
  down : Nat
  /-- The number of its table of steps. -/
  table : Nat
  deriving Inhabited

structure Frame where
  /-- The frame is stored in the plain way. -/
  isBaseline : Bool
  width : Nat
  height : Nat
  components : Array Component

/-- What the parts in front of a scan have said. -/
structure Tables where
  steps : List (Nat × Steps) := []
  firstCodes : List (Nat × PrefixCode) := []
  otherCodes : List (Nat × PrefixCode) := []
  /-- The blocks between restart marks; zero for none. -/
  restart : Nat := 0
  /-- The file says that it is of the plain kind with brightness and colour. -/
  isPlain : Bool := false
  /-- What another mark says of the colours. -/
  colors : Option Nat := none
  frame : Option Frame := none

/-! ## Parts -/

/-- Tables of steps; nothing when one is cut. -/
def readSteps : Nat → Bytes → List (Nat × Steps) → Option (List (Nat × Steps))
  | 0, _, done => some done
  | fuel + 1, bytes, done =>
      if bytes.isEmpty then some done
      else
        let size := if bytes.at0 0 < 16 then 1 else 2
        if bytes.size < 1 + 64 * size then none
        else
          let written := fun k => (bytes.number? .highFirst (1 + k * size) size).getD 0
          let steps : Steps := Array.ofFn (n := 64) fun i =>
            written (zigzag.toList.idxOf i.val)
          readSteps fuel (bytes.extract (1 + 64 * size) bytes.size)
            ((bytes.at0 0 % 16, steps) :: done)

/-- Tables of codes, as far as they are whole. -/
def readCodes : Nat → Bytes → Tables → Tables
  | 0, _, t => t
  | fuel + 1, bytes, t =>
      let counts := (bytes.slice 1 16).toList.map UInt8.toNat
      let total := counts.foldl (· + ·) 0
      if bytes.size < 17 + total then t
      else
        let code : PrefixCode := ⟨counts, (bytes.slice 17 total).map UInt8.toNat⟩
        let number := bytes.at0 0 % 16
        readCodes fuel (bytes.extract (17 + total) bytes.size) <|
          if bytes.at0 0 < 16 then { t with firstCodes := (number, code) :: t.firstCodes }
          else { t with otherCodes := (number, code) :: t.otherCodes }

/-- The frame that a part describes. -/
def readFrame (mark : Nat) (bytes : Bytes) : Option Frame := do
  let height ← bytes.high16? 1
  let width ← bytes.high16? 3
  let count := bytes.at0 5
  if bytes.at0 0 ≠ 8 || !([1, 3, 4].contains count) || bytes.size < 6 + 3 * count then none
  return {
    isBaseline := mark = 0xC0 || mark = 0xC1
    width, height
    components := Array.ofFn (n := count) fun i =>
      let at_ := fun k => bytes.at0 (6 + 3 * i + k)
      ⟨at_ 0, at_ 1 / 16, at_ 1 % 16, at_ 2⟩ }

/-- The marks of frames. -/
def isFrameMark (mark : Nat) : Bool :=
  0xC0 ≤ mark && mark ≤ 0xCF && mark ≠ 0xC4 && mark ≠ 0xC8 && mark ≠ 0xCC

/-- The tables with what one more part says; nothing when it makes no sense. -/
def Tables.adding (t : Tables) (mark : Nat) (bytes : Bytes) : Option Tables :=
  if mark = 0xDB then (readSteps bytes.size bytes t.steps).map fun steps => { t with steps }
  else if mark = 0xC4 then some (readCodes bytes.size bytes t)
  else if mark = 0xDD then some { t with restart := (bytes.high16? 0).getD 0 }
  else if mark = 0xE0 && bytes.startsWith (Bytes.ofAscii "JFIF") then some { t with isPlain := true }
  else if mark = 0xEE && bytes.startsWith (Bytes.ofAscii "Adobe") && 12 ≤ bytes.size then
    some { t with colors := some (bytes.at0 11) }
  else if isFrameMark mark then (readFrame mark bytes).map fun frame => { t with frame := some frame }
  else some t

/-- Marks without bytes of their own. -/
def isBare (mark : Nat) : Bool :=
  (0xD0 ≤ mark && mark ≤ 0xD9) || (0xF0 ≤ mark && mark ≤ 0xFD)

/-- Read parts from a position on up to the next scan.  Answered with the tables is
the head of the scan and where its bits start; nothing when the file ends before
that or makes no sense.  `fuel` is at least the number of bytes. -/
def readParts (data : Bytes) : Nat → Nat → Tables → Option (Tables × Bytes × Nat)
  | 0, _, _ => none
  | fuel + 1, position, t =>
      if data.size < position + 2 then none
      else if data.at0 position ≠ 255 then readParts data fuel (position + 1) t
      else
        let mark := data.at0 (position + 1)
        if mark = 255 then readParts data fuel (position + 1) t
        else if mark = 0 || isBare mark then readParts data fuel (position + 2) t
        else if mark < 0xC0 then none
        else do
          let length ← data.high16? (position + 2)
          let next := position + 2 + length
          if length < 2 || data.size < next then none
          else
            let bytes := data.slice (position + 4) (length - 2)
            if mark = 0xDA then
              if t.frame.isSome then some (t, bytes, next) else none
            else readParts data fuel next (← t.adding mark bytes)

/-! ## Scans -/

namespace Frame

/-- The most samples that a component has across, and down. -/
def mostAcross (f : Frame) : Nat := f.components.foldl (fun n c => max n c.across) 1

def mostDown (f : Frame) : Nat := f.components.foldl (fun n c => max n c.down) 1

/-- The groups of blocks in a row of the picture, and down. -/
def groupsAcross (f : Frame) : Nat := (f.width + 8 * f.mostAcross - 1) / (8 * f.mostAcross)

def groupsDown (f : Frame) : Nat := (f.height + 8 * f.mostDown - 1) / (8 * f.mostDown)

/-- The samples of a component that belong to the picture, across and down. -/
def columns (f : Frame) (c : Component) : Nat := (f.width * c.across + f.mostAcross - 1) / f.mostAcross

def rows (f : Frame) (c : Component) : Nat := (f.height * c.down + f.mostDown - 1) / f.mostDown

/-- The blocks of a component in a row. -/
def blocksAcross (f : Frame) (c : Component) : Nat := f.groupsAcross * c.across

/-- The groups of blocks of a scan.  A single component has its blocks one by one,
and no more than it needs. -/
def groups (f : Frame) (components : List Component) : List (List Unit_) :=
  match components with
  | [c] =>
      let across := (f.columns c + 7) / 8
      (List.range (across * ((f.rows c + 7) / 8))).map fun i =>
        [⟨0, i / across * f.blocksAcross c + i % across⟩]
  | components =>
      (List.range (f.groupsAcross * f.groupsDown)).map fun i =>
        components.zipIdx.flatMap fun (c, k) =>
          (List.range (c.across * c.down)).map fun j =>
            let row := i / f.groupsAcross * c.down + j / c.across
            ⟨k, row * f.blocksAcross c + i % f.groupsAcross * c.across + j % c.across⟩

end Frame

/-- The components of a scan with their codes. -/
def scanned? (t : Tables) (f : Frame) (head : Bytes) : Option (List (Nat × Codes)) :=
  (List.range (head.at0 0)).mapM fun i => do
    let number := head.at0 (1 + 2 * i)
    let index ← f.components.findIdx? (·.number = number)
    let codes := head.at0 (2 + 2 * i)
    return (index, ⟨← t.firstCodes.lookup (codes / 16), ← t.otherCodes.lookup (codes % 16)⟩)

/-- A row in parts of `count`; all of it when `count` is zero. -/
def parts {α : Type} (count : Nat) : Nat → List α → List (List α)
  | 0, _ => []
  | fuel + 1, l =>
      if count = 0 then [l]
      else if l.isEmpty then []
      else l.take count :: parts count fuel (l.drop count)

/-- Read one scan into the blocks of the components.  Answered with them is where
the scan ends; nothing when a table or the mark behind the scan is missing. -/
def readScan (data : Bytes) (t : Tables) (f : Frame) (head : Bytes) (start : Nat)
    (blocks : Array (Array Block)) : Option (Array (Array Block) × Nat) := do
  let components ← scanned? t f head
  let (segments, stop) := segmentsFrom data data.size start #[] []
  let stop ← stop
  let groups := f.groups (components.map fun c => f.components.getD c.1 default)
  let codes := (components.map (·.2)).toArray
  let read : Scanned := (segments.zip (parts t.restart (groups.length + 1) groups)).foldl
    (fun s (segment, groups) => s.readSegment codes segment groups)
    ⟨0, codes.map fun _ => 0, (components.map fun c => blocks.getD c.1 #[]).toArray⟩
  let blocks := components.zipIdx.foldl (fun (blocks : Array (Array Block)) (c, i) =>
    blocks.setIfInBounds c.1 (read.blocks.getD i #[])) blocks
  return (blocks, stop)

/-- Read scans until every component has been in one. -/
def readScans (data : Bytes) (f : Frame) : Nat → Tables → (head : Bytes) → (start : Nat) →
    (missing : List Nat) → Array (Array Block) → Option (Tables × Array (Array Block))
  | 0, _, _, _, _, _ => none
  | fuel + 1, t, head, start, missing, blocks => do
      let (blocks, stop) ← readScan data t f head start blocks
      let found := (← scanned? t f head).map (·.1)
      let missing := missing.filter fun i => !found.contains i
      if missing.isEmpty then some (t, blocks)
      else
        let (t, head, start) ← readParts data data.size stop t
        readScans data f fuel t head start missing blocks

/-! ## Pictures -/

/-- The three components are brightness and colour, not red, green and blue. -/
def hasBrightness (t : Tables) (f : Frame) : Bool :=
  if t.isPlain then true
  else match t.colors with
    | some n => n ≠ 0
    | none => f.components.map (·.number) ≠ #[82, 71, 66]

/-- The planes of a frame. -/
def planes (t : Tables) (f : Frame) (blocks : Array (Array Block)) : Option (Array Plane) :=
  f.components.zipIdx.mapM fun (c, i) => do
    let steps ← t.steps.lookup c.table
    return {
      across := f.blocksAcross c
      blocks := (blocks.getD i #[]).map fun b => Plane.samplesOf (b.restored steps)
      width := f.columns c
      height := f.rows c }

/-- The picture in a frame. -/
def picture (data : Bytes) (t : Tables) (f : Frame) (head : Bytes) (start : Nat) :
    Option Raster := do
  let count := f.components.size
  if !f.isBaseline || count = 4 then none
  if f.components.any fun c =>
      c.across = 0 || c.down = 0 || f.mostAcross % c.across ≠ 0 || f.mostDown % c.down ≠ 0 then none
  let empty := f.components.map fun c =>
    Array.replicate (f.blocksAcross c * (f.groupsDown * c.down)) Block.zero
  let (t, blocks) ← readScans data f (count + 1) t head start (List.range count) empty
  let planes ← planes t f blocks
  let sample := fun i x y => match f.components[i]?, planes[i]? with
    | some c, some p => p.spread (f.mostAcross / c.across) (f.mostDown / c.down) x y
    | _, _ => 0
  if count = 1 then
    return Raster.tabulate .gray f.width f.height fun x y _ => Channel.clip ((planes[0]?.map
      (·.sample x y)).getD 0)
  else
    let hasBrightness := hasBrightness t f
    let colors := Array.ofFn (n := f.width * f.height) fun i =>
      let x := i.val % f.width
      let y := i.val / f.width
      let (a, b, c) := (sample 0 x y, sample 1 x y, sample 2 x y)
      if hasBrightness then colorOf a b c else (Channel.clip a, Channel.clip b, Channel.clip c)
    return Raster.tabulate .rgb f.width f.height fun x y c =>
      let color := colors.getD (y * f.width + x) (0, 0, 0)
      if c = 0 then color.1 else if c = 1 then color.2.1 else color.2.2

/-- What is found in a file; nothing when it is no JPEG file. -/
def recognised (data : Bytes) : Recognised := do
  if !data.startsWith [0xFF, 0xD8, 0xFF] then none
  let (t, head, start) ← readParts data data.size 2 {}
  let frame ← t.frame
  Recognised.sized frame.width frame.height <| match picture data t frame head start with
    | some picture => .single Format.jpeg.tag picture
    | none => .damaged Format.jpeg.tag .pixels

end Jpeg

end Darkroom
