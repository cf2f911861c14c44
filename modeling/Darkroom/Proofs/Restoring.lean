/-
# Darkroom.Proofs.Restoring -- a lossless file, turned over and over

A request that turns a picture over names a motion of the plane, and the engine lays
the picture as that motion says (`reply_reoriented`).  What a chain of such requests
leaves is laid the composed way (`chain_laid`): each link decodes what the one before
has written, and a lossless file gives that back (`RereadsLossless`), but that a BMP
file has no alpha.  So motions that come to nothing together restore the source, but for
the alpha of a BMP file, which the first request takes away: `chain_restores`.
-/
import Darkroom.Proofs.Motions
import Darkroom.Proofs.Stamping

namespace Darkroom

set_option autoImplicit false

/-! ## Requests -/

/-- A request to turn a picture over that asks for no format. -/
structure Reorientation where
  operation : Operation
  options : Options
  motion : Motion
  named : Motion.Named operation options motion
  valid : options.validate = .ok ()
  unasked : options.format = .unset

/-! ## Pictures that are written and found again -/

namespace Raster

variable {r s p : Raster} {f : Format}

theorem SamePixels.laid (same : r.SamePixels s) (g : Orientation) :
    (r.laid g).SamePixels (s.laid g) := by
  rw [samePixels_iff] at same ⊢
  have bareLaid (r : Raster) : (r.laid g).bare = r.bare.laid g := rfl
  rw [bareLaid, bareLaid, same]

theorem IsDecoded.laid (decoded : r.IsDecoded) (g : Orientation) : (r.laid g).IsDecoded := decoded

/-- What a file of a lossless format keeps of a picture: BMP files have no alpha. -/
def kept (f : Format) (r : Raster) : Raster :=
  if f = .bmp ∧ r.mode = .rgba then r.withoutAlpha else r

theorem kept_kept : (r.kept f).kept f = r.kept f := by
  unfold kept
  split_ifs with lost again
  · cases again.2
  · rfl
  · rfl

theorem SamePixels.kept (same : r.SamePixels s) : (r.kept f).SamePixels (s.kept f) := by
  unfold Raster.kept
  rw [same.mode]
  split_ifs
  · rw [samePixels_iff] at same ⊢
    have bareColours (r : Raster) : r.withoutAlpha.bare = r.bare.withoutAlpha := rfl
    rw [bareColours, bareColours, same]
  · exact same

theorem byteAt_withoutAlpha (r : Raster) {x y c : Nat} (hx : x < r.width) (hy : y < r.height) (hc : c < 3) :
    r.withoutAlpha.byteAt x y c = r.byteAt x y c := byteAt_tabulate hx hy hc

theorem withoutAlpha_laid (isRgba : r.mode = .rgba) (g : Orientation) :
    (r.laid g).withoutAlpha = r.withoutAlpha.laid g := by
  refine ext_bytes rfl rfl rfl rfl rfl fun x y c hx hy hc => ?_
  have inside : c < r.mode.bytes := by
    rw [isRgba]
    exact Nat.lt_succ_of_lt hc
  rw [byteAt_withoutAlpha (r.laid g) hx hy hc, byteAt_laid r g hx hy inside,
    byteAt_laid r.withoutAlpha g hx hy hc]
  obtain ⟨inX, inY⟩ := source_inside r g hx hy
  exact (byteAt_withoutAlpha r inX inY hc).symm

theorem kept_laid (g : Orientation) : (r.laid g).kept f = (r.kept f).laid g := by
  unfold kept
  rw [laid_mode]
  split_ifs with lost
  · exact withoutAlpha_laid lost.2 g
  · rfl

end Raster

/-- A lossless file is found again as it was written, but for the alpha of a BMP file. -/
def RereadsLossless (reread : Encoding → Opened) : Prop :=
  ∀ f ∈ Encoding.lossless, ∀ (r : Raster) (quality : Value), r.IsDecoded →
    ∃ back, (reread (.single f r quality)).still.outcome = .ok (back, f) ∧
      back.SamePixels (r.kept f)

namespace Engine

/-! ## Links -/

variable {source : Opened} {r : Raster} {f : Format} {reread : Encoding → Opened}

theorem probe_of_still (decoded : source.still.outcome = .ok (r, f)) : source.probe = .ok f := by
  obtain ⟨c, first, rest, rfl, -, known, -⟩ := Opened.still_eq_ok decoded
  rw [Opened.probe, Opened.container, Outcome.ok_bind, known]

theorem isDecoded_of_still (decoded : source.still.outcome = .ok (r, f)) : r.IsDecoded := by
  obtain ⟨c, first, rest, -, -, -, made⟩ := Opened.still_eq_ok decoded
  exact Raster.isDecoded_of_normalized made

/-- A request to turn a lossless file over is answered with its picture laid that way. -/
theorem reply_reoriented (given : Option Marks) (shelf : Shelf) (look : Lookup)
    (decoded : source.still.outcome = .ok (r, f)) (keeps : f ∈ Encoding.lossless)
    (t : Reorientation) :
    ∃ g : Orientation, g.motion = t.motion ∧
      reply given shelf look source (.text t.operation.name) t.options =
        .ok (.encoded (.single f (r.laid g) t.options.quality)) := by
  obtain ⟨step, turn, built, turns, motion⟩ := t.named.built
  have found : answerFormat source t.options = .ok f := by
    rw [answerFormat, Options.requestedFormat, t.unasked]
    exact probe_of_still decoded
  have decided : step.runsOn t.options r = .ok true := by
    rw [Step.runsOn, Step.resamples_of_turn turns]
    rfl
  have notGif : f ≠ .gif := by
    rintro rfl
    exact absurd keeps (by decide)
  have prepared : (prepare source (.text t.operation.name) t.options).outcome =
      .ok (.still (r.laid (.ofSymmetry turn)) f t.options.quality) := by
    rw [prepare_of _ t.valid found, built, Outcome.ok_bind, if_neg notGif,
      prepareStill_outcome decoded, decided, Outcome.ok_bind, if_pos rfl, Step.run_of_turn turns,
      Raster.transformed_eq_laid]
    rfl
  have plain : (r.laid (.ofSymmetry turn)).mode = .rgb ∨ (r.laid (.ofSymmetry turn)).mode = .rgba :=
    (isDecoded_of_still decoded).symm.imp_left And.left
  have unstamped : (Prepared.still (r.laid (.ofSymmetry turn)) f t.options.quality).needsMarks =
      false := by
    cases f <;> first | rfl | exact absurd keeps (by decide)
  refine ⟨.ofSymmetry turn, motion, ?_⟩
  rw [reply_of_still prepared unstamped, Encoding.ofPicture_of_plain plain keeps]
  rfl

/-! ## Chains -/

/-- Answer requests one after another, each on the output of the one before; `reread`
says what is found in a file that was written. -/
def chain (reread : Encoding → Opened) (given : Option Marks) (look : Lookup) :
    Shelf → Opened → List Reorientation → Outcome Opened
  | _, source, [] => .ok source
  | shelf, source, t :: rest =>
      let (answer, later) := transform given shelf look source (.text t.operation.name) t.options
      match answer.outcome with
      | .error fault => .error fault
      | .ok .unchanged => chain reread given look later source rest
      | .ok (.encoded e) => chain reread given look later (reread e) rest

/-- After any number of requests a lossless file shows its picture laid the composed way,
or what the format keeps of it. -/
theorem chain_laid (reads : RereadsLossless reread) (keeps : f ∈ Encoding.lossless)
    (decoded : source.still.outcome = .ok (r, f)) (given : Option Marks) (shelf : Shelf)
    (look : Lookup) (word : List Reorientation) :
    ∃ last back g, chain reread given look shelf source word = .ok last ∧
      last.still.outcome = .ok (back, f) ∧
      Orientation.motion g = Motion.composed (word.map Reorientation.motion) ∧
      back.SamePixels ((if word = [] then r else r.kept f).laid g) := by
  induction word generalizing source r shelf with
  | nil =>
      refine ⟨source, r, .upright, rfl, decoded, rfl, ?_⟩
      rw [if_pos rfl, Raster.laid_upright]
      exact ⟨rfl, rfl, rfl, rfl⟩
  | cons t rest ih =>
      obtain ⟨g, motion, answered⟩ := reply_reoriented given shelf look decoded keeps t
      obtain ⟨next, found, same⟩ := reads f keeps _ t.options.quality
        ((isDecoded_of_still decoded).laid g)
      obtain ⟨last, back, h, ran, shown, later, laid⟩ := ih found
        (transform given shelf look source (.text t.operation.name) t.options).2
      rw [Raster.kept_laid] at same
      refine ⟨last, back, g.andThen h, ?_, shown, ?_, ?_⟩
      · rw [reply] at answered
        rw [chain]
        simp only [answered]
        exact ran
      · rw [Orientation.motion_andThen, motion, later]
        rfl
      · rw [if_neg (List.cons_ne_nil _ _), ← Raster.laid_laid]
        refine laid.trans (Raster.SamePixels.laid ?_ h)
        split_ifs
        · exact same
        · have again := same.kept (f := f)
          rwa [Raster.kept_laid, Raster.kept_kept] at again

/-- Requests whose motions come to nothing restore a lossless file: it shows the same
picture, byte by byte.  Only the alpha of a BMP file is gone with the first request. -/
theorem chain_restores (reads : RereadsLossless reread) (keeps : f ∈ Encoding.lossless)
    (decoded : source.still.outcome = .ok (r, f)) (given : Option Marks) (shelf : Shelf)
    (look : Lookup) (word : List Reorientation)
    (nothing : ∀ p, Motion.composed (word.map Reorientation.motion) p = p) :
    ∃ last back, chain reread given look shelf source word = .ok last ∧
      last.still.outcome = .ok (back, f) ∧
      (word = [] ∨ f ≠ .bmp ∨ r.mode = .rgb → back.SamePixels r) ∧
      (word ≠ [] → f = .bmp → r.mode = .rgba → back.SamePixels r.withoutAlpha) := by
  obtain ⟨last, back, g, ran, shown, motion, same⟩ :=
    chain_laid reads keeps decoded given shelf look word
  have upright : g = .upright := Orientation.motion_eq_id (motion.trans (funext nothing))
  rw [upright, Raster.laid_upright] at same
  refine ⟨last, back, ran, shown, fun intact => ?_, fun some_ isBmp isRgba => ?_⟩
  · split_ifs at same with none_
    · exact same
    · have whole : ¬(f = .bmp ∧ r.mode = .rgba) := by
        rintro ⟨isBmp, isRgba⟩
        rcases intact with empty | other | isRgb
        · exact none_ empty
        · exact other isBmp
        · cases isRgb.symm.trans isRgba
      rwa [Raster.kept, if_neg whole] at same
  · rwa [if_neg some_, Raster.kept, if_pos ⟨isBmp, isRgba⟩] at same

/-! ## Files as they are written here -/

/-- The files of the engine's own writer are found again. -/
theorem rereadsLossless_container : RereadsLossless fun e => some e.container := by
  intro f keeps r quality decoded
  -- What is stored is a picture that is decoded as it is, or with its mark for nothing.
  have stored (s : Raster) (isDecoded : s.IsDecoded) :
      (Opened.still (some (.single f.tag s))).outcome = .ok (s, f) := by
    have known : (Container.single f.tag s).format? = some f := Container.format?_of_tag rfl
    have made : s.normalized = .ok s := by
      rcases isDecoded with isRgba | ⟨isRgb, unmarked⟩
      · simp [Raster.normalized, Raster.hasAlpha, Raster.toRgba, isRgba, Raster.modeHasAlpha]
      · simp [Raster.normalized, Raster.hasAlpha, Raster.toRgb, isRgb, unmarked,
          Raster.modeHasAlpha]
    rw [Container.single] at known ⊢
    simp [Opened.still, Opened.container, known, made]
  cases f
  case jpeg | gif => exact absurd keeps (by decide)
  case png => exact ⟨r, stored r decoded, rfl, rfl, rfl, rfl⟩
  case tiff =>
    refine ⟨{ r with transparency := .none }, stored _ ?_, rfl, rfl, rfl, rfl⟩
    exact decoded.imp_right fun isRgb => ⟨isRgb.1, rfl⟩
  case bmp =>
    refine ⟨r.kept .bmp, ?_, rfl, rfl, rfl, rfl⟩
    have file : (Encoding.single .bmp r quality).container =
        .single Format.bmp.tag (r.kept .bmp) := by
      simp [Encoding.single, Encoding.container, Encoding.stored, Raster.kept]
    simp only [file]
    refine stored _ ?_
    unfold Raster.kept
    split_ifs with lost
    · exact .inr ⟨rfl, rfl⟩
    · exact decoded

/-- A half turn. -/
def halfTurn : Reorientation where
  operation := .rotate
  options := { degree := .number (.int 180) }
  motion p := (-p.1, -p.2)
  named := .half rfl rfl
  valid := rfl
  unasked := rfl

/-- Top and bottom change places. -/
def flipped : Reorientation where
  operation := .flip
  options := { position := .text "v" }
  motion p := (p.1, -p.2)
  named := .vertical rfl
  valid := rfl
  unasked := rfl

/-- A file of one see-through picture. -/
def clearFile : Container := .single Format.png.tag (.filled .rgba 3 2 UInt8.ofNat)

/-- It survives two half turns and two mirrors. -/
theorem clearFile_restored : ∃ r last back,
    (Opened.still (some clearFile)).outcome = .ok (r, .png) ∧
    chain (fun e => some e.container) none (Disk.read {}) {} (some clearFile)
      [halfTurn, flipped, halfTurn, flipped] = .ok last ∧
    last.still.outcome = .ok (back, .png) ∧ back.SamePixels r ∧ r.mode = .rgba := by
  have decoded : (Opened.still (some clearFile)).outcome =
      .ok (.filled .rgba 3 2 UInt8.ofNat, .png) := rfl
  obtain ⟨last, back, ran, shown, same, -⟩ := chain_restores rereadsLossless_container (by decide)
    decoded none {} (Disk.read {}) [halfTurn, flipped, halfTurn, flipped]
    (fun p => by simp [Motion.composed, halfTurn, flipped])
  exact ⟨_, last, back, decoded, ran, shown, same (.inr (.inl (by decide))), rfl⟩

/-- A bitmap file of two pixels whose fields have eight bits of alpha. -/
def alphaBitmap : Array UInt8 := #[
  66, 77, 78, 0, 0, 0, 0, 0, 0, 0, 70, 0, 0, 0,
  56, 0, 0, 0, 2, 0, 0, 0, 1, 0, 0, 0, 1, 0, 32, 0, 3, 0, 0, 0, 8, 0, 0, 0, 19, 11, 0, 0,
  19, 11, 0, 0, 0, 0, 0, 0, 0, 0, 0, 0, 0, 0, 255, 0, 0, 255, 0, 0, 255, 0, 0, 0, 0, 0, 0, 255,
  30, 20, 10, 128, 60, 50, 40, 255]

/-- Two half turns come to nothing, but its alpha is gone. -/
theorem alphaBitmap_fades : ∃ r last back,
    RereadsLossless (fun e => some e.container) ∧
    (Reader.source alphaBitmap).still.outcome = .ok (r, .bmp) ∧
    (∀ p, Motion.composed ([halfTurn, halfTurn].map Reorientation.motion) p = p) ∧
    chain (fun e => some e.container) none (Disk.read {}) {} (Reader.source alphaBitmap)
      [halfTurn, halfTurn] = .ok last ∧
    last.still.outcome = .ok (back, .bmp) ∧ ¬back.SamePixels r := by
  have decoded : (match (Reader.source alphaBitmap).still.outcome with
      | .ok (r, f) => f == .bmp && r.mode == .rgba
      | .error _ => false) = true := by decide +kernel
  cases opened : (Reader.source alphaBitmap).still.outcome with
  | error fault => simp [opened] at decoded
  | ok found =>
      obtain ⟨r, f⟩ := found
      simp only [opened, Bool.and_eq_true, beq_iff_eq] at decoded
      obtain ⟨rfl, isRgba⟩ := decoded
      obtain ⟨last, back, g, ran, shown, -, same⟩ := chain_laid rereadsLossless_container
        (by decide) opened none {} (Disk.read {}) [halfTurn, halfTurn]
      refine ⟨r, last, back, rereadsLossless_container, rfl, fun p => ?_, ran, shown, ?_⟩
      · simp [Motion.composed, halfTurn]
      · intro whole
        have mode : Mode.rgb = r.mode := by
          rw [← whole.mode, same.mode, if_neg (List.cons_ne_nil _ _), Raster.laid_mode,
            Raster.kept, if_pos ⟨rfl, isRgba⟩]
          rfl
        cases mode.trans isRgba

end Engine

end Darkroom
