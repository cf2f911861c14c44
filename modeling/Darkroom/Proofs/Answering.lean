/-
# Darkroom.Proofs.Answering -- what can keep a request from being answered

A request on a sound file, with options that are in order, comes to something to write,
unless a resample has no room, and it has where the sides of the file are short
(`prepare_cases`).  After that four things can be in the way, and nothing else is
(`reply_fault_iff`): the marks of a JPEG picture, the want of room to find its colour, a
side of it that is too long, and a number that an animation cannot record.  The last
three do not occur where the sides and the times of the file fit the fields of the answer
(`FieldsFit`), and then only the marks are left.
-/
import Darkroom.Proofs.Limits

namespace Darkroom

set_option autoImplicit false

/-! ## Sound files and proper requests -/

/-- A file of a known format that can be read whole, and whose first picture has
colours and a size that a picture can have. -/
structure Container.Sound (c : Container) (first : Frame) (rest : List Frame) : Prop where
  known : c.format?.isSome = true
  frames : c.frames = first :: rest
  whole : c.damage = none
  colours : first.picture.isConvertible = true
  sides : first.picture.SidesIn (2 ^ 31 - 1)

theorem Container.Sound.still {c : Container} {first : Frame} {rest : List Frame}
    (sound : c.Sound first rest) : ∃ r sf, (Opened.still (some c)).outcome = .ok (r, sf) ∧
      r.width = first.picture.width ∧ r.height = first.picture.height := by
  obtain ⟨sf, known⟩ := Option.isSome_iff_exists.mp sound.known
  obtain ⟨r, made⟩ := first.picture.normalized_found sound.colours
  obtain ⟨width, height⟩ := Raster.normalized_size made
  refine ⟨r, sf, ?_, width, height⟩
  simp [Opened.still, Opened.container, sound.frames, known, made]

/-- The quality of a request that is in order is one that a JPEG file can have. -/
theorem Options.checkedQuality_of_valid {o : Options} {n : ℤ} (valid : o.validate = .ok ())
    (whole : o.quality.number? = some (.int n)) :
    Encoding.checkedQuality o.quality = .ok () := by
  have within : (0 ≤ n ∧ n ≤ 100) := by
    unfold validate at valid
    obtain ⟨w, -, valid⟩ := Outcome.bind_eq_ok.mp valid
    obtain ⟨-, valid⟩ := Outcome.guard_eq_ok.mp valid
    obtain ⟨h, -, valid⟩ := Outcome.bind_eq_ok.mp valid
    obtain ⟨-, valid⟩ := Outcome.guard_eq_ok.mp valid
    rw [Value.toNumber_of_number? whole, Outcome.ok_bind] at valid
    split_ifs at valid with range
    simpa [Number.le, Number.lt, Number.isNan] using range
  have small : -0x8000000000000000 ≤ n ∧ n < 0x8000000000000000 := by omega
  cases quality : o.quality <;> rw [quality] at whole <;>
    simp_all [Encoding.checkedQuality, Value.number?]

namespace Engine

variable {c : Container} {first : Frame} {rest : List Frame} {known : Operation} {o : Options}
  {step : Step} {f : Format}

/-- A request that is in order: its options are valid, its format and its step are
there, its quality is a whole number, and so are the sides of a resample, none of
them longer than a GIF file can record. -/
structure Proper (c : Container) (first : Frame) (known : Operation) (o : Options) (step : Step)
    (f : Format) : Prop where
  valid : o.validate = .ok ()
  found : answerFormat (some c) o = .ok f
  built : Step.build (.text known.name) o = .ok step
  quality : ∃ n, o.quality.number? = some (.int n)
  asks : known.isResample = true → o.AsksUpTo Encoding.largestField first.picture

/-- The sides and the times of a file fit the fields of an answer in a format. -/
def FieldsFit (f : Format) (c : Container) (first : Frame) (known : Operation) (o : Options) :
    Prop :=
  match f with
  | .jpeg => first.picture.SidesIn Encoding.longestJpegSide ∧
      (known.isResample = true → o.AsksUpTo Encoding.longestJpegSide first.picture)
  | .gif => first.picture.SidesIn Encoding.largestField ∧ c.TimesFit
  | .png | .tiff | .bmp => True

/-! ## What there is to write -/

/-- There is room for a request: it is no resample, or the source has short sides. -/
def HasRoom (known : Operation) (first : Frame) : Prop :=
  known.isResample = true → first.picture.IsShort

/-- A result keeps to any limit that the picture and the sides asked for keep to. -/
def KeepsLimits (known : Operation) (o : Options) (source p : Raster) : Prop :=
  ∀ limit ≤ 2 ^ 31 - 1, source.SidesIn limit →
    (known.isResample = true → o.AsksUpTo limit source) → p.SidesIn limit

section

variable (sound : c.Sound first rest) (proper : Proper c first known o step f)

include sound proper

/-- The step comes to a picture on any one of the size of the first, if there is room. -/
theorem drawn_found {s : Step} {r : Raster} (resamples : s.resamples = step.resamples)
    (given : step.sides? = some (o.width, o.height) → s.sides? = some (o.width, o.height))
    (width : r.width = first.picture.width) (height : r.height = first.picture.height) :
    Outcome.RoomAllows (HasRoom known first) (s.runScaled o r).outcome ∧
      ∀ p, (s.runScaled o r).outcome = .ok p → KeepsLimits known o first.picture p := by
  have resample : s.resamples = true →
      known.isResample = true ∧ s.sides? = some (o.width, o.height) := by
    intro resampling
    have isResample : known.isResample = true := by
      rw [← Step.resamples_of_build proper.built, ← resamples, resampling]
    exact ⟨isResample, given (Step.sides_of_build isResample proper.built).1⟩
  refine ⟨?found, fun p drawn limit small sides asks => ?limits⟩
  case found =>
    refine (Step.runScaled_found fun resampling => ?_).mono fun roomy resampling => ?_
    · obtain ⟨isResample, sides⟩ := resample resampling
      exact ⟨sides, ((proper.asks isResample).congr width height).feasible
        (sound.sides.congr width height) (by decide)⟩
    · obtain ⟨isResample, -⟩ := resample resampling
      obtain ⟨w, h, asked, -, -, derived⟩ := (proper.asks isResample).congr width height
      obtain ⟨narrow, low⟩ := roomy isResample
      have ordinary : (Encoding.largestField : ℤ) ≤ Span.roomyLength := by decide
      refine ⟨w, h, asked, fun x y settled => ⟨⟨width ▸ narrow, height ▸ low⟩, ?_, ?_⟩⟩
      · exact (derived x y settled).1.trans ordinary
      · exact (derived x y settled).2.trans ordinary
  refine Step.runScaled_sidesIn (sides.congr width height) small (fun resampling => ?_) drawn
  obtain ⟨isResample, stepSides⟩ := resample resampling
  exact ⟨stepSides, (asks isResample).congr width height⟩

/-- The request comes to the source itself, to one picture, or to an animation that
follows the file, or there is no room for it. -/
theorem prepare_cases :
    ((prepare (some c) (.text known.name) o).outcome = .error .outOfRoom ∧ ¬HasRoom known first) ∨
    (prepare (some c) (.text known.name) o).outcome = .ok .unchanged ∨
    (f ≠ .gif ∧ ∃ r, picture (some c) step o = .ok r ∧
      (prepare (some c) (.text known.name) o).outcome = .ok (.still r f o.quality) ∧
      KeepsLimits known o first.picture r) ∨
    (f = .gif ∧ ∃ a p, (prepare (some c) (.text known.name) o).outcome = .ok (.animation a) ∧
      a.Follows c first (animationStep step) o p ∧ KeepsLimits known o first.picture p) := by
  by_cases passed : (prepare (some c) (.text known.name) o).outcome = .ok .unchanged
  · exact .inr (.inl passed)
  by_cases isGif : f = .gif
  · have found : answerFormat (some c) o = .ok .gif := isGif ▸ proper.found
    have touched : reply none {} (Disk.read {}) (some c) (.text known.name) o ≠ .ok .unchanged :=
      fun same => passed (reply_unchanged_iff.mp same)
    have path := prepare_transformed proper.valid found proper.built sound.frames touched
    obtain ⟨drawn, limits⟩ := drawn_found sound proper (s := animationStep step)
      (r := Animation.firstCanvas first) (resamples_animationStep step)
      (fun given => (sides_animationStep given).1) rfl rfl
    rcases drawn with ⟨p, drawn⟩ | ⟨full, long⟩
    · obtain ⟨a, joined, follows⟩ := Animation.transformed_follows sound.frames sound.whole drawn
      refine .inr (.inr (.inr ⟨isGif, a, p, ?_, follows, limits p drawn⟩))
      rw [path, joined]
      rfl
    · refine .inl ⟨?_, long⟩
      rw [path, Animation.transformed_of_fault sound.frames (Animation.reduced_of_fault full)]
      rfl
  · obtain ⟨r, sf, decoded, width, height⟩ := sound.still
    have same : picture (some c) step o = (step.runScaled o r).outcome := by
      rw [picture, decoded]
      rfl
    have path : (prepare (some c) (.text known.name) o).outcome =
        (prepareStill (some c) step o f).outcome := by
      rw [prepare_of _ proper.valid proper.found, proper.built, Outcome.ok_bind, if_neg isGif]
    have prepared := path.trans (prepareStill_picture (path ▸ passed))
    obtain ⟨drawn, limits⟩ := drawn_found sound proper (s := step) (r := r) rfl id width height
    rcases drawn with ⟨p, drawn⟩ | ⟨full, long⟩
    · exact .inr (.inr (.inl ⟨isGif, p, same.trans drawn, by rw [prepared, same, drawn]; rfl,
        limits p drawn⟩))
    · exact .inl ⟨by rw [prepared, same, full]; rfl, long⟩

end

/-! ## What is in the way -/

section

variable (given : Option Marks) (shelf : Shelf) (look : Lookup)

/-- What keeps something to write from being written: the marks that a JPEG picture
waits for cannot be had, there is no room to find its colour, one of its sides is too
long, or an animation holds a number that its file cannot. -/
inductive Obstacle : Prepared → Fault → Prop
  | marks {r : Raster} {quality : Value} {fault : Fault}
      (missing : (marks given shelf look).outcome = .error fault) :
      Obstacle (.still r .jpeg quality) fault
  | room {r : Raster} {quality : Value} {got : Marks × Shelf}
      (had : (marks given shelf look).outcome = .ok got)
      (full : (Watermark.choose r).outcome = .error .outOfRoom) :
      Obstacle (.still r .jpeg quality) .outOfRoom
  | side {r : Raster} {quality : Value} {got : Marks × Shelf}
      (had : (marks given shelf look).outcome = .ok got)
      (chosen : ∃ choice, (Watermark.choose r).outcome = .ok choice)
      (long : ¬r.SidesIn Encoding.longestJpegSide) :
      Obstacle (.still r .jpeg quality) .refusedPicture
  | field {a : Animation} (misfits : ¬Encoding.Recordable a) : Obstacle (.animation a) .unrecordable

/-- A picture in RGB or RGBA meets the marks or a long side as JPEG, and nothing in
any other format. -/
theorem reply_still_fault_iff (fault : Fault) {source : Opened} {operation : Value} {r : Raster}
    {quality : Value}
    (prepared : (prepare source operation o).outcome = .ok (.still r f quality))
    (still : f ≠ .gif) (plain : r.mode = .rgb ∨ r.mode = .rgba)
    (checked : Encoding.checkedQuality quality = .ok ()) (sides : r.SidesIn (2 ^ 31 - 1)) :
    reply given shelf look source operation o = .error fault ↔
      Obstacle given shelf look (.still r f quality) fault := by
  by_cases isJpeg : f = .jpeg
  case pos =>
    subst isJpeg
    rw [reply_eq, prepared, Outcome.ok_bind, Prepared.needsMarks, if_pos rfl]
    cases loaded : (marks given shelf look).outcome with
    | error other =>
        constructor
        · intro failed
          obtain rfl := Except.error.inj failed
          exact .marks loaded
        · intro obstacle
          cases obstacle with
          | marks missing => rw [← loaded, missing]; rfl
          | room had | side had => rw [loaded] at had; cases had
    | ok got =>
        have finished : ((Prepared.still r .jpeg quality).finish (some got.1)).outcome =
            (Encoding.stampedJpeg r quality (some got.1)).outcome.map .encoded := by
          rw [Prepared.finish, Logged.outcome_bind, Encoding.ofPicture]
          cases (Encoding.stampedJpeg r quality (some got.1)).outcome <;> rfl
        rw [Outcome.ok_bind, finished, Outcome.map_eq_error,
          Encoding.stampedJpeg_eq_error got.1 plain checked sides]
        constructor
        · rintro (⟨rfl, full⟩ | ⟨rfl, chosen, long⟩)
          · exact .room loaded full
          · exact .side loaded chosen long
        · intro obstacle
          cases obstacle with
          | marks missing => rw [loaded] at missing; cases missing
          | room _ full => exact .inl ⟨rfl, full⟩
          | side _ chosen long => exact .inr ⟨rfl, chosen, long⟩
  case neg =>
    have keeps : f ∈ Encoding.lossless := by
      cases f <;> first | exact absurd rfl isJpeg | exact absurd rfl still | decide
    have unmarked : (Prepared.still r f quality).needsMarks = false := by
      cases f <;> first | rfl | exact absurd rfl isJpeg
    rw [reply_of_still prepared unmarked, Encoding.ofPicture_of_plain plain keeps]
    constructor
    · intro impossible
      cases impossible
    · intro obstacle
      cases obstacle <;> exact absurd rfl isJpeg

/-- An animation meets the fields of its file. -/
theorem reply_animation_fault_iff (fault : Fault) {source : Opened} {operation : Value}
    {a : Animation} (prepared : (prepare source operation o).outcome = .ok (.animation a)) :
    reply given shelf look source operation o = .error fault ↔
      Obstacle given shelf look (.animation a) fault := by
  rw [reply_of_animation prepared, Outcome.map_eq_error, Encoding.ofAnimation_eq_error]
  constructor
  · rintro ⟨rfl, misfits⟩
    exact .field misfits
  · intro obstacle
    cases obstacle with
    | field misfits => exact ⟨rfl, misfits⟩

/-- A picture within the limits of JPEG meets nothing but the marks. -/
theorem obstacle_jpeg_iff {r : Raster} {quality : Value} {fault : Fault}
    (plain : r.mode = .rgb ∨ r.mode = .rgba) (short : r.SidesIn Encoding.longestJpegSide) :
    Obstacle given shelf look (.still r .jpeg quality) fault ↔
      (marks given shelf look).outcome = .error fault := by
  constructor
  · intro obstacle
    cases obstacle with
    | marks missing => exact missing
    | side _ _ long => exact absurd short long
    | room _ full =>
        have roomy : Encoding.longestJpegSide ≤ Span.roomyLength := by decide
        obtain ⟨choice, chosen⟩ := (Watermark.choose_found (Raster.isConvertible_of_plain plain)
          short.wide short.tall (short.narrow.trans_lt (by decide))
          (short.low.trans_lt (by decide))).found ⟨short.narrow.trans roomy, short.low.trans roomy⟩
        cases full.symm.trans chosen
  · exact .marks

end

/-- A red picture of one pixel. -/
def redDot : Raster := .filled .rgb 1 1 fun c => if c = 0 then 255 else 0

/-- A file that shows a red dot twice, for as long as one frame can say and for one
hundredth of a second more. -/
def longStay : Container where
  tag := Format.gif.tag
  frames := [⟨redDot, ⟨655350, 0⟩⟩, ⟨redDot, ⟨10, 0⟩⟩]

/-- An opaque layer hides the canvas it is laid on. -/
theorem overlaid_of_opaque {canvas layer : Raster} (opaque_ : layer.hasAlpha = false)
    (width : canvas.width = layer.width) (height : canvas.height = layer.height) :
    canvas.overlaid layer = .ofPixels layer.width layer.height layer.pixelAt := by
  rw [Raster.overlaid, width, height]
  apply Raster.ofPixels_congr
  intro x y inside below
  rw [if_pos ⟨inside, below⟩, Rgba.above_of_solid (Raster.alpha_pixelAt opaque_ x y)]

/-- Shots of the same picture are written as one, which stays as long as both. -/
theorem written_of_same {a : Animation} {s t : Shot} (shots : a.shots = [s, t])
    (same : s.picture = t.picture) : a.written = [s.extended t.timing.duration] := by
  rw [Animation.written, shots, Shot.folded, Shot.foldOnto,
    if_pos (by simp [Shot.alike, same]), Shot.foldOnto]

/-- The second frame hides the first, so whatever the step both come to one picture. -/
theorem written_longStay {a : Animation} {p : Raster}
    (follows : a.Follows longStay ⟨redDot, ⟨655350, 0⟩⟩ step o p) :
    ∃ s, a.written = [s] ∧ s.timing = ⟨655360, 0⟩ := by
  obtain ⟨s, t, shots⟩ := List.length_eq_two.mp follows.count
  have timings := follows.timings
  have pictures := follows.pictures
  rw [shots] at timings pictures
  obtain ⟨first, later⟩ := List.forall₂_cons.mp pictures
  obtain ⟨second, -⟩ := List.forall₂_cons.mp later
  have hidden (canvas : Raster) (width : canvas.width = 1) (height : canvas.height = 1) :
      canvas.overlaid redDot = .ofPixels 1 1 redDot.pixelAt := overlaid_of_opaque rfl width height
  dsimp only at first second
  rw [hidden (Animation.emptyCanvas redDot.width redDot.height) rfl rfl] at first second
  rw [hidden (.ofPixels 1 1 redDot.pixelAt) rfl rfl] at second
  have same : s.picture = t.picture := Except.ok.inj (first.symm.trans second)
  have stays : s.timing = ⟨655350, 0⟩ := (List.cons.inj timings).1
  have more : t.timing = ⟨10, 0⟩ := (List.cons.inj (List.cons.inj timings).2).1
  refine ⟨_, written_of_same shots same, ?_⟩
  rw [Shot.extended, stays, more]
  rfl

end Engine

end Darkroom
