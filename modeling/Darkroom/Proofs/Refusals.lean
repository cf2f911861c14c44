/-
# Darkroom.Proofs.Refusals -- what a request can be refused for

`Among kinds` says that a computation fails with faults of some kinds only.  It
goes through a computation step by step (`Only.bind`), so there is one lemma for
each function of the engine, and each names the kinds that the function can come
to: an option of the wrong type or out of range, arithmetic, a source that cannot
be read, a number that does not fit a file.  What a whole request can fail with is
read off them (`among_prepare`, `within_finish`, `among_reply`).

`Within kinds` says that moreover none of the faults is a complaint about the
request.  Only the first look at the options and the building of the step complain
(`among_validate`, `among_build`); nothing that looks at the source does.

That an asset is not to be had is one kind more.  `AssetFree` says that a
computation is never refused for that one, as nothing is before the marks are
looked at (`assetFree_prepare`) and no file but JPEG is after that
(`assetFree_finish`).
-/
import Darkroom.Proofs.Request
import Darkroom.Proofs.Frames
import Darkroom.Proofs.Written

namespace Darkroom

set_option autoImplicit false

/-- Kinds of faults. -/
abbrev Fault.Kinds := List Fault.Kind

/-- What drawing can fail with: sides out of range or of the wrong type, and
arithmetic. -/
def Fault.Kinds.drawing : Fault.Kinds := [.value, .type, .overflow, .division]

/-- What resampling can fail with: drawing, and the want of room. -/
def Fault.Kinds.resampling : Fault.Kinds := .library :: Fault.Kinds.drawing

/-- A fault that is found with the operation or the options of a request alone. -/
def Fault.isComplaint : Fault → Bool
  | .rejected (.negativeSides _ _) | .rejected (.qualityRange _) | .rejected (.noStep _)
  | .unsupportedDegree _ | .unsupportedAxis _ => true
  | _ => false

namespace Outcome

variable {α β : Type} {ks ls : Fault.Kinds}

/-- A computation that fails with faults of the listed kinds only. -/
abbrev Among (ks : Fault.Kinds) (x : Outcome α) : Prop := Only (·.kind ∈ ks) x

/-- A computation that fails with faults of the listed kinds only, and never complains. -/
abbrev Within (ks : Fault.Kinds) (x : Outcome α) : Prop :=
  Only (fun fault => fault.kind ∈ ks ∧ fault.isComplaint = false) x

namespace Only

variable {x : Outcome α}

theorem listed {kind : Fault.Kind} (more : ks.all (ls.contains ·) = true) (known : kind ∈ ks) :
    kind ∈ ls :=
  List.contains_iff_mem.mp (List.all_eq_true.mp more kind known)

/-- More kinds may be listed; that they are is computed. -/
theorem mono (known : Within ks x) (more : ks.all (ls.contains ·) = true) : Within ls x := by
  intro fault failed
  obtain ⟨kind, quiet⟩ := known fault failed
  exact ⟨listed more kind, quiet⟩

theorem more (known : Among ks x) (more : ks.all (ls.contains ·) = true) : Among ls x :=
  fun fault failed => listed more (known fault failed)

theorem kinds (known : Within ks x) : Among ks x := fun fault failed => (known fault failed).1

theorem among (known : Within ks x) (more : ks.all (ls.contains ·) = true) : Among ls x :=
  known.kinds.more more

/-- A fault that is plainly of a listed kind, and no complaint. -/
theorem refused {fault : Fault} (plain : (ks.contains fault.kind && !fault.isComplaint) = true) :
    Within ks (.error fault : Outcome α) := by
  obtain ⟨kind, quiet⟩ := Bool.and_eq_true_iff.mp plain
  exact error ⟨List.contains_iff_mem.mp kind, by simpa using quiet⟩

/-- A fault that is plainly of a listed kind. -/
theorem faulty {fault : Fault} (kind : ks.contains fault.kind = true) :
    Among ks (.error fault : Outcome α) :=
  error (List.contains_iff_mem.mp kind)

theorem ofArithmetic (x : Except ArithmeticError α) : Within .drawing (ofArithmetic x) := by
  cases x with
  | ok a => exact ok a
  | error e => cases e <;> exact refused rfl

end Only

end Outcome

open Outcome

/-! ## Options and steps -/

theorem Value.within_toNumber (v : Value) : Within .drawing v.toNumber := by
  unfold toNumber
  split
  · exact .ok _
  · exact .refused rfl

theorem Format.within_ofName (given : Value) : Within [.format] (ofName given) := by
  unfold ofName
  split
  · exact .ok _
  · exact .refused rfl

theorem Scaling.within_factorOf (width height : Nat) (boxWidth boxHeight : Value) :
    Within .drawing (factorOf width height boxWidth boxHeight) := by
  unfold factorOf factor
  refine .bind (Value.within_toNumber _) fun w => .guard (.refused rfl) ?_
  refine .bind (Value.within_toNumber _) fun h => .guard (.refused rfl) ?_
  exact .bind (Value.within_toNumber _) fun _ => .bind (.ofArithmetic _) fun _ =>
    .bind (Value.within_toNumber _) fun _ => .bind (.ofArithmetic _) fun _ => .ok _

namespace Options

variable (o : Options)

theorem among_validate : Among .drawing o.validate := by
  have number (v : Value) : Among .drawing v.toNumber := v.within_toNumber.among rfl
  unfold validate
  refine .bind (number _) fun w => .guard (.faulty rfl) ?_
  refine .bind (number _) fun h => .guard (.faulty rfl) ?_
  exact .bind (number _) fun _ => .ite (.ok _) (.faulty rfl)

theorem within_requestedFormat : Within [.format] o.requestedFormat := by
  unfold requestedFormat
  split
  · exact .ok _
  · exact .ok _
  · exact .bind (Format.within_ofName _) fun _ => .ok _

theorem within_resolvedSides (sw sh : Number) : Within .drawing (o.resolvedSides sw sh) := by
  have derived (known own other : Number) : Within .drawing (deriveSide known own other) :=
    .ofArithmetic _
  unfold resolvedSides
  refine .ite ?_ (.ite ?_ (.ok _))
  · exact .bind (Value.within_toNumber _) fun _ => .bind (derived _ _ _) fun _ => .ok _
  · exact .bind (Value.within_toNumber _) fun _ => .bind (derived _ _ _) fun _ => .ok _

end Options

namespace Raster

variable (r : Raster)

theorem within_toRgb : Within .drawing r.toRgb :=
  .ite (.ok _) (.ite (.ok _) (.refused rfl))

theorem within_toRgba : Within .drawing r.toRgba :=
  .ite (.ok _) (.ite (.ok _) (.refused rfl))

theorem within_normalized : Within .drawing r.normalized :=
  .ite r.within_toRgba r.within_toRgb

theorem within_paletted (colors : Int) : Within .drawing (r.paletted colors) :=
  .bind r.within_toRgb fun _ => .ite (.ok _) (.ok _)

theorem within_resized (f : Filter) (region : Region) (w h : Number) :
    Within .resampling (r.resized f region w h) := by
  unfold resized
  split
  · exact .ite (.ok _) (.ite (.refused rfl) (.ite (.refused rfl) (.ite (.ok _) (.refused rfl))))
  · exact .ite (.ok _) (.refused rfl)

end Raster

namespace Step

variable (step : Step) (o : Options) (r : Raster)

theorem among_build (operation : Value) :
    Among [.degree, .axis, .type, .value] (build operation o) := by
  have turned : Among [.degree, .axis, .type, .value] (rotation o.degree) := by
    unfold rotation
    split
    · exact .ok _
    · exact .faulty rfl
  have mirrored : Among [.degree, .axis, .type, .value] (reflection o.position) := by
    unfold reflection
    split
    · exact .ok _
    · exact .faulty rfl
  unfold build
  split
  case h_1 known _ =>
    cases known
    case resize | thumbnail | fit => exact .ok _
    case rotate => exact turned
    case flip => exact mirrored
  case h_2 => split <;> exact .faulty rfl

theorem within_runsOn : Within .drawing (step.runsOn o r) :=
  .ite (.bind (Scaling.within_factorOf _ _ _ _) fun _ => .ok _) (.ok _)

theorem within_drawn (w h : Number) : Within .resampling (step.drawn r w h) := by
  cases step
  case resize => exact r.within_resized _ _ _ _
  case thumbnail =>
    exact .bind (.mono (.ofArithmetic _) rfl) fun _ => r.within_resized _ _ _ _
  case fit =>
    have fitted : Within .drawing (fitSides r.width r.height w h) :=
      .ite (.ok _) (.ofArithmetic _)
    refine .bind (.mono fitted rfl) fun sides => ?_
    cases sides with
    | none => exact .ok r
    | some sides => exact r.within_resized _ _ _ _
  case rotate | flip => exact .ok r

theorem within_run : Within .resampling (step.run r) := by
  rcases step.turn_or_sides with ⟨turn, turns⟩ | ⟨width, height, given⟩
  · rw [run_of_turn turns]
    exact .ok _
  · have settled : Within .drawing (targetSides width height r) :=
      .bind (Options.within_resolvedSides _ _ _) fun _ => .ite (.ok _) (.ok _)
    have side (v : Value) : Within .resampling v.toNumber := .mono v.within_toNumber rfl
    rw [run_of_sides given]
    refine .bind (.mono settled rfl) fun sides => ?_
    cases sides with
    | none => exact .ok r
    | some sides => exact .bind (side _) fun _ => .bind (side _) fun _ => step.within_drawn r _ _

theorem within_runScaled : Within .resampling (step.runScaled o r).outcome := by
  rw [runScaled_outcome]
  exact .bind (.mono (step.within_runsOn o r) rfl) fun _ => .ite (step.within_run r) (.ok r)

end Step

/-! ## Sources -/

namespace Opened

theorem within_container (source : Opened) : Within [.decode] source.container := by
  unfold container
  split
  · exact .ok _
  · exact .refused rfl

theorem within_probe (source : Opened) : Within [.decode, .format] source.probe := by
  unfold probe
  refine .bind (.mono source.within_container rfl) fun c => ?_
  split
  · exact .ok _
  · exact .refused rfl

end Opened

/-- What reading the pictures of a file can fail with. -/
def Fault.Kinds.reading : Fault.Kinds := [.decode, .library, .index, .value, .type]

namespace Damage

variable (d : Damage) {α : Type}

theorem within_fault : Within .reading (.error d.fault : Outcome α) := by
  cases d <;> exact .refused rfl

theorem within_stillFault : Within .reading (.error d.stillFault : Outcome α) := by
  cases d <;> exact .refused rfl

end Damage

/-- A still picture fails to be decoded, or with damage that is not told. -/
theorem Opened.within_still (source : Opened) : Within .reading source.still.outcome := by
  unfold still
  simp only [Logged.outcome_bind, Logged.outcome_lift]
  refine .bind (.mono source.within_container rfl) fun c => ?_
  split
  · cases c.damage with
    | none => exact .refused rfl
    | some d => exact d.within_stillFault
  · split
    · exact .refused rfl
    · split
      · exact .refused rfl
      · exact .ok _

/-- What pictures can fail with before they are written. -/
def Fault.Kinds.animating : Fault.Kinds := .library :: .index :: .decode :: Fault.Kinds.drawing

namespace Animation

variable (c : Container) (first : Frame) (step : Step) (o : Options)

theorem within_ofPictures (pictures : List Raster) (timings : List Timing) (width height : Nat)
    (loop : Option Int) : Within .drawing (ofPictures pictures timings width height loop) := by
  unfold ofPictures
  refine .ite (.refused rfl) (.ite (.refused rfl) ?_)
  dsimp only
  split
  · exact .refused rfl
  · split
    · exact .refused rfl
    · exact .ok _

theorem within_transformed :
    Within .animating (transformed c first step o step.resamples).outcome := by
  rw [transformed_outcome]
  refine .bind (.mapM (fun canvas => ?_) _) fun pictures => ?_
  · exact .bind (.mono (step.within_runScaled o canvas) rfl) fun p =>
      .mono (p.within_paletted 256) rfl
  · cases c.damage with
    | some d => exact .mono d.within_fault rfl
    | none => exact .mono (within_ofPictures _ _ _ _ _) rfl

end Animation

/-! ## Files -/

/-- What a file can fail with when it is written. -/
def Fault.Kinds.writing : Fault.Kinds := .encoder :: .library :: Fault.Kinds.drawing

namespace Encoding

theorem within_checked (modes : List Mode) (r : Raster) : Within .writing (checked modes r) :=
  .ite (.ok r) (.refused rfl)

theorem within_checkedField (n : Int) : Within .writing (checkedField n) :=
  .ite (.ok ()) (.refused rfl)

theorem within_checkedQuality (quality : Value) :
    Within .writing (checkedQuality quality) := by
  unfold checkedQuality
  split
  · exact .refused rfl
  · exact .refused rfl
  · split
    · exact .ite (.ok _) (.refused rfl)
    · exact .refused rfl

theorem within_ofAnimation (a : Animation) : Within .writing (ofAnimation a) := by
  unfold ofAnimation
  refine .bind (within_checkedField _) fun _ => .bind (within_checkedField _) fun _ => ?_
  have delays := Only.forEach (fun s : Shot => within_checkedField (delay s.timing)) a.written
  cases a.loop with
  | none => exact .bind delays fun _ => .ok _
  | some n => exact .bind (within_checkedField n) fun _ => .bind delays fun _ => .ok _

/-- What a picture can fail with when it is written without a mark. -/
theorem within_ofPicture (r : Raster) {f : Format} (plain : f ≠ .jpeg) (quality : Value)
    (marks : Option Marks) :
    Within .writing (ofPicture r f quality marks).outcome := by
  cases f
  case jpeg => exact absurd rfl plain
  case png | tiff =>
    simp only [ofPicture, Logged.outcome_bind, Logged.outcome_lift]
    exact .bind (within_checked _ r) fun _ => .ok _
  case gif =>
    simp only [ofPicture, palettedGif, Logged.outcome_lift]
    exact .bind (.mono (r.within_paletted 256) rfl) fun _ => .bind (within_checkedField _) fun _ =>
      .bind (within_checkedField _) fun _ => .ok _
  case bmp =>
    simp only [ofPicture, outcome_ite, Logged.outcome_bind, Logged.outcome_lift]
    exact .ite (.ok _) (.bind (.mono r.within_normalized rfl) fun _ => .ok _)

end Encoding

/-! ## Marks -/

namespace Dominant

theorem within_sample (r : Raster) (edge : Int) : Within .resampling (sample r edge) := by
  have rounded (v : Double) {key : Int → Outcome Double} (keys : ∀ n, Within .drawing (key n)) :
      Within .drawing (roundBy v key) :=
    .bind (keys _) fun _ => .bind (keys _) fun _ => .ite (.ok _) (.ok _)
  have sized (width height : Nat) : Within .drawing (sampleSize width height edge) := by
    unfold sampleSize
    refine .bind (.ofArithmetic _) fun aspect => .bind (.ofArithmetic _) fun square => .ite ?_ ?_
    · exact .bind (rounded _ fun _ => .bind (.ofArithmetic _) fun _ => .ok _) fun _ => .ok _
    · exact .bind (.ofArithmetic _) fun _ => .bind (rounded _ fun _ =>
        .ite (.ok _) (.bind (.ofArithmetic _) fun _ => .ok _)) fun _ => .ok _
  refine .bind (.mono r.within_toRgba rfl) fun rgba => .ite ?_ (.ok _)
  exact .bind (.mono (sized _ _) rfl) fun _ => rgba.within_resized _ _ _ _

theorem within_ofRaster (r : Raster) (clusters edge : Int) :
    Within .writing (ofRaster r clusters edge) :=
  .bind (.mono (within_sample r edge) rfl) fun _ =>
    .ite (.ite (.refused rfl) (.ok _)) (.ite (.refused rfl) (.ok _))

end Dominant

theorem Brightness.within_markScore (channels : List Value) :
    Within .drawing (markScore channels) := by
  unfold markScore
  split
  · exact .refused rfl
  · exact .bind (Value.within_toNumber _) fun _ => .bind (.ofArithmetic _) fun _ =>
      .ite (.ok _) (.ok _)

namespace Watermark

variable (base : Raster)

theorem within_dominant (clusters edge : Int) :
    Within .writing (dominant base clusters edge).outcome := by
  unfold dominant
  simp only [Logged.outcome_bind, Logged.outcome_lift]
  refine .bind (Dominant.within_ofRaster base _ _) fun answer => ?_
  split <;> exact .ok _

theorem within_choose : Within .writing (choose base).outcome := by
  unfold choose colorScore
  simp only [Logged.outcome_bind, Logged.outcome_lift]
  exact .bind (within_dominant base _ _) fun answer =>
    .bind (.mono (Brightness.within_markScore _) rfl) fun _ => .ok _

theorem within_stamped (mark : Mark) (opacity : Int) :
    Within .drawing (stamped base mark opacity) :=
  .bind base.within_toRgba fun _ => .ite (.ok _) (.ok _)

theorem within_compose (marks : Marks) (opacity : Int) :
    Within .writing (compose base marks opacity).outcome := by
  simp only [compose, Logged.outcome_bind, Logged.outcome_lift]
  exact .bind (within_choose base) fun choice =>
    .bind (.mono (within_stamped base _ opacity) rfl) fun _ => .ok _

end Watermark

/-- What a picture can fail with when it is stamped. -/
theorem Encoding.within_stampedJpeg (r : Raster) (quality : Value) (marks : Marks) :
    Within .writing (stampedJpeg r quality (some marks)).outcome := by
  simp only [stampedJpeg, Logged.outcome_bind, Logged.outcome_lift, outcome_ite]
  exact .bind (Watermark.within_compose r marks _) fun _ =>
    .bind (.mono (Raster.within_toRgb _) rfl) fun _ =>
      .bind (within_checkedQuality quality) fun _ => .ite (.ok _) (.refused rfl)

/-- What loading marks can fail with. -/
def Fault.Kinds.loading : Fault.Kinds := [.asset, .value, .library, .index, .type]

namespace Mark

variable (path : Path)

theorem within_damageFault (d : Damage) {α : Type} :
    Within .loading (.error (damageFault path d) : Outcome α) := by
  cases d <;> exact .refused rfl

theorem within_load (look : Lookup) : Within .loading (load look path) := by
  have made (r : Raster) : Within .loading (ofRaster r) := by
    unfold ofRaster
    split_ifs
    · exact .ok _
    · exact .ok _
    · exact .refused rfl
  unfold load
  split
  · split <;> exact .refused rfl
  · split
    · exact .refused rfl
    · exact within_damageFault path _
    · split
      · exact made _
      · exact within_damageFault path _

end Mark

/-! ## Requests -/

/-- What keeps a request of known format from coming to something to write. -/
def Fault.Kinds.preparing : Fault.Kinds := .degree :: .axis :: Fault.Kinds.animating

/-- What keeps something to write from being written. -/
def Fault.Kinds.completing : Fault.Kinds := .asset :: .index :: Fault.Kinds.writing

/-- What keeps a request of known format from being answered. -/
def Fault.Kinds.answering : Fault.Kinds := .asset :: .encoder :: Fault.Kinds.preparing

namespace Engine

variable (source : Opened) (operation : Value) (step : Step) (o : Options) (f : Format)

theorem within_prepareAnimation : Within .animating (prepareAnimation source step o).outcome := by
  cases source with
  | none => exact .refused rfl
  | some c =>
      cases frames : c.frames with
      | nil =>
          have failed : (prepareAnimation (some c) step o).outcome =
              .error ((c.damage.map (·.fault)).getD .undecodableFrame) := by
            simp [prepareAnimation, Animation.ofOpened, Opened.container, frames]
          rw [failed]
          cases c.damage with
          | none => exact .refused rfl
          | some d => exact .mono d.within_fault rfl
      | cons first rest =>
          rw [prepareAnimation_outcome frames, ← resamples_animationStep]
          exact .bind (.mono (step.within_runsOn o _) rfl) fun _ => .ite (.ok _)
            (.bind (Animation.within_transformed c first _ o) fun _ => .ok _)

theorem within_prepareStill :
    Within .animating (prepareStill source step o f).outcome := by
  cases decoded : source.still.outcome with
  | error fault =>
      have failed : (prepareStill source step o f).outcome = .error fault := by
        simp [prepareStill, decoded]
      rintro _ other
      obtain rfl := Except.error.inj (failed.symm.trans other)
      have listed : Within .animating source.still.outcome := .mono source.within_still rfl
      exact listed fault decoded
  | ok opened =>
      obtain ⟨r, sf⟩ := opened
      rw [prepareStill_outcome decoded]
      exact .bind (.mono (step.within_runsOn o r) rfl) fun _ =>
        .ite (.bind (.mono (step.within_run r) rfl) fun _ => .ok _) (.ok _)

theorem within_outputFormat (requested : Option Format) :
    Within [.decode, .format] (outputFormat source requested) := by
  cases requested with
  | none => exact source.within_probe
  | some f => exact .ok f

variable {source o f}

/-- With the format settled, what comes before the writing. -/
theorem among_prepare (found : answerFormat source o = .ok f) :
    Among .preparing (prepare source operation o).outcome := by
  obtain ⟨requested, asked, found⟩ := bind_eq_ok.mp found
  simp only [prepare_outcome, asked, found, ok_bind]
  exact .bind (.more o.among_validate rfl) fun _ =>
    .bind (.more (Step.among_build o operation) rfl) fun step =>
      .ite (.among (within_prepareAnimation source step o) rfl)
        (.among (within_prepareStill source step o f) rfl)

/-- Whatever the format, what comes before the writing. -/
theorem among_prepare_unsettled :
    Among (.format :: Fault.Kinds.preparing) (prepare source operation o).outcome := by
  rw [prepare_outcome]
  exact .bind (.more o.among_validate rfl) fun _ =>
    .bind (.among o.within_requestedFormat rfl) fun _ =>
      .bind (.more (Step.among_build o operation) rfl) fun step =>
        .bind (.among (within_outputFormat source _) rfl) fun f =>
          .ite (.among (within_prepareAnimation source step o) rfl)
            (.among (within_prepareStill source step o f) rfl)

/-- What comes after it, once there are marks where they are needed. -/
theorem within_finish (p : Prepared) {marks : Option Marks}
    (had : p.needsMarks = true → marks.isSome = true) :
    Within .writing (p.finish marks).outcome := by
  cases p with
  | unchanged => exact .ok _
  | still picture format quality =>
      rw [Prepared.finish, Logged.outcome_bind]
      by_cases isJpeg : format = .jpeg
      · subst isJpeg
        obtain ⟨m, rfl⟩ := Option.isSome_iff_exists.mp (had rfl)
        exact .bind (Encoding.within_stampedJpeg picture quality m) fun _ => .ok _
      · exact .bind (Encoding.within_ofPicture picture isJpeg quality marks) fun _ => .ok _
  | animation a =>
      rw [Prepared.finish, Logged.outcome_bind, Logged.outcome_lift]
      exact .bind (Encoding.within_ofAnimation a) fun _ => .ok _

theorem within_marks (given : Option Marks) (shelf : Shelf) (look : Lookup) :
    Within .loading (marks given shelf look).outcome := by
  cases given with
  | some m => exact .ok _
  | none =>
      cases kept : shelf.kept with
      | some h =>
          simp only [marks, Shelf.standard, kept]
          exact .ok _
      | none =>
          simp only [marks, Shelf.standard, kept, Shelf.load, Marks.load, Logged.outcome_bind,
            Logged.outcome_lift]
          exact .bind (.bind (.bind (.bind (Mark.within_load _ look) fun _ =>
            .bind (Mark.within_load _ look) fun _ => .ok _) fun _ => .ok _) fun _ => .ok _)
            fun _ => .ok _

/-- What comes after a request is prepared. -/
theorem within_completed (given : Option Marks) (shelf : Shelf) (look : Lookup) (p : Prepared) :
    Within .completing (if p.needsMarks then do
        (p.finish (some (← (marks given shelf look).outcome).1)).outcome
      else (p.finish none).outcome) := by
  cases needs : p.needsMarks
  · exact .mono (within_finish p (by simp [needs])) rfl
  · exact .bind (.mono (within_marks given shelf look) rfl) fun got =>
      .mono (within_finish p fun _ => rfl) rfl

/-- Once its format is settled, a request is refused for no format any more. -/
theorem among_reply (given : Option Marks) (shelf : Shelf) (look : Lookup)
    (found : answerFormat source o = .ok f) :
    Among .answering (reply given shelf look source operation o) := by
  rw [reply_eq]
  exact .bind (.more (among_prepare operation found) rfl) fun p =>
    .among (within_completed given shelf look p) rfl

/-- Whatever the format, what a request is refused for. -/
theorem among_reply_unsettled (given : Option Marks) (shelf : Shelf) (look : Lookup) :
    Among (.format :: Fault.Kinds.answering) (reply given shelf look source operation o) := by
  rw [reply_eq]
  exact .bind (.more (among_prepare_unsettled operation) rfl) fun p =>
    .among (within_completed given shelf look p) rfl

end Engine

/-! ## Who asks for an asset -/

namespace Outcome

variable {α β : Type}

/-- A computation that is not refused for the sake of an asset. -/
def AssetFree (x : Outcome α) : Prop := ∀ fault, x = .error fault → fault.kind ≠ .asset

/-- Kinds of faults without the missing asset. -/
theorem Only.assetFree {ks : Fault.Kinds} {x : Outcome α} (known : Among ks x)
    (other : ks.contains .asset = false) : AssetFree x := by
  rintro fault failed isAsset
  have listed : fault.kind ∈ ks := known fault failed
  rw [isAsset, ← List.contains_iff_mem, other] at listed
  cases listed

namespace AssetFree

theorem ok (a : α) : AssetFree (.ok a : Outcome α) := nofun

theorem map {x : Outcome α} (first : AssetFree x) (f : α → β) : AssetFree (x.map f) :=
  Only.map first f

end AssetFree

end Outcome

namespace Engine

/-- What there is to write is found without a mark. -/
theorem assetFree_prepare (source : Opened) (operation : Value) (o : Options) :
    AssetFree (prepare source operation o).outcome :=
  (among_prepare_unsettled operation).assetFree rfl

/-- A mark is missing only where a JPEG picture is written. -/
theorem assetFree_finish (p : Prepared) (marks : Option Marks) (plain : p.needsMarks = false) :
    AssetFree (p.finish marks).outcome :=
  (within_finish p (by simp [plain])).kinds.assetFree rfl

end Engine

end Darkroom
