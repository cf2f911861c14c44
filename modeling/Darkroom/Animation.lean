/-
# Darkroom.Animation -- pictures shown one after another

A `Shot` is one picture with how long it stays and what becomes of it then.  An
`Animation` is a non-empty run of shots of one size.  Before an animation is
written, neighbours with the same bytes are folded into one shot that stays as
long as both, so no two neighbours of a folded run are alike.
-/
import Darkroom.Raster.Basic
import Darkroom.Fault

namespace Darkroom

set_option autoImplicit false

/-- How long a picture stays, in thousandths of a second, and what becomes of
it before the next one is drawn. -/
structure Timing where
  duration : Int := 0
  disposal : Int := 0
  deriving DecidableEq, Inhabited, Repr

structure Shot where
  picture : Raster
  timing : Timing

namespace Shot

/-- The pictures of two shots are the same string of bytes.  Their modes, sides and
palettes are not compared. -/
def alike (s t : Shot) : Bool := s.picture.packed = t.picture.packed

/-- A shot that stays longer. -/
def extended (s : Shot) (duration : Int) : Shot :=
  { s with timing := { s.timing with duration := s.timing.duration + duration } }

/-- Fold the neighbours of `kept` that are like it into it, and go on with the
first that is not. -/
def foldOnto (kept : Shot) : List Shot → List Shot
  | [] => [kept]
  | s :: rest =>
      if s.alike kept then foldOnto (kept.extended s.timing.duration) rest
      else kept :: foldOnto s rest

/-- Fold neighbours that are alike. -/
def folded : List Shot → List Shot
  | [] => []
  | s :: rest => foldOnto s rest

theorem foldOnto_ne_nil (kept : Shot) (rest : List Shot) : foldOnto kept rest ≠ [] := by
  induction rest generalizing kept with
  | nil => simp [foldOnto]
  | cons s rest ih =>
      unfold foldOnto
      split
      · exact ih _
      · simp

/-- The time that a run of shots takes. -/
def totalDuration (shots : List Shot) : Int :=
  shots.foldr (fun s total => s.timing.duration + total) 0

theorem totalDuration_foldOnto (kept : Shot) (rest : List Shot) :
    totalDuration (foldOnto kept rest) = kept.timing.duration + totalDuration rest := by
  induction rest generalizing kept with
  | nil => simp [foldOnto, totalDuration]
  | cons s rest ih =>
      unfold foldOnto
      split
      · rw [ih]
        simp [extended, totalDuration]
        omega
      · have h := ih s
        simp only [totalDuration, List.foldr_cons] at h ⊢
        omega

/-- Folding takes no time away. -/
theorem totalDuration_folded (shots : List Shot) :
    totalDuration (folded shots) = totalDuration shots := by
  cases shots with
  | nil => rfl
  | cons s rest =>
      rw [folded, totalDuration_foldOnto]
      simp [totalDuration]

end Shot

structure Animation where
  shots : List Shot
  width : Nat
  height : Nat
  /-- How often the run is repeated; nothing plays it once. -/
  loop : Option Int
  nonempty : shots ≠ []
  sized : ∀ s ∈ shots, s.picture.width = width ∧ s.picture.height = height

namespace Animation

/-- The first picture that has another size, with its place in the run. -/
def misfit? (width height : Nat) (index : Nat) : List Shot → Option (Nat × Raster)
  | [] => none
  | s :: rest =>
      if s.picture.width = width ∧ s.picture.height = height then misfit? width height (index + 1) rest
      else some (index, s.picture)

theorem sized_of_misfit?_eq_none {width height index : Nat} {shots : List Shot}
    (h : misfit? width height index shots = none) :
    ∀ s ∈ shots, s.picture.width = width ∧ s.picture.height = height := by
  induction shots generalizing index with
  | nil => simp
  | cons s rest ih =>
      unfold misfit? at h
      split at h
      · rename_i hs
        intro t ht
        rcases List.mem_cons.mp ht with rfl | ht
        · exact hs
        · exact ih h t ht
      · simp at h

/-- Join pictures and timings to an animation. -/
def ofPictures (pictures : List Raster) (timings : List Timing) (width height : Nat)
    (loop : Option Int) : Outcome Animation :=
  if pictures = [] then .error (.rejected .noFrames)
  else if pictures.length ≠ timings.length then
    .error (.rejected (.timingCount pictures.length timings.length))
  else
    let shots := pictures.zipWith Shot.mk timings
    match h : misfit? width height 0 shots with
    | some (index, picture) =>
        .error (.rejected (.frameSize index picture.width picture.height width height))
    | none =>
        if hn : shots = [] then .error (.rejected .noFrames)
        else .ok ⟨shots, width, height, loop, hn, sized_of_misfit?_eq_none h⟩

/-- The shots as they are written. -/
def written (a : Animation) : List Shot := Shot.folded a.shots

/-- A number for every picture of a call; of a single picture it is said plainly. -/
inductive PerPicture
  | plain (n : Int)
  | listed (ns : List Int)
  deriving DecidableEq

namespace PerPicture

def ofList : List Int → PerPicture
  | [n] => .plain n
  | ns => .listed ns

def values : PerPicture → List Int
  | .plain n => [n]
  | .listed ns => ns

end PerPicture

/-- What the writer of an animation is called with. -/
structure Call where
  /-- The picture that is saved and those that are appended to it. -/
  pictures : List Raster
  durations : PerPicture
  disposals : PerPicture
  /-- Nothing is said of repeats where there is nothing to say. -/
  loop : Option Int

/-- The call that writes an animation. -/
def call (a : Animation) : Call where
  pictures := a.written.map (·.picture)
  durations := .ofList (a.written.map (·.timing.duration))
  disposals := .ofList (a.written.map (·.timing.disposal))
  loop := a.loop

end Animation

end Darkroom
