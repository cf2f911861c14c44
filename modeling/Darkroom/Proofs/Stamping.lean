/-
# Darkroom.Proofs.Stamping -- marks come last

A request is settled before a mark is looked at.  `picture` is what its step comes
to on the source, whatever the file that is asked for: the formats that lose
nothing are handed that picture, the marks and the quality have no say in them, in
a GIF answer or where the source is the answer, and a JPEG picture is it with a
mark on it (`marks_last`).

A mark that cannot be loaded is an asset that is not to be had, but for a file that is
recognised and spoilt: its head or its first picture is damaged, and not because pixels
are cut short, or its pixels have no colour.  That is no mark and no missing asset
either, and the request ends with the fault of the reader (`Mark.Spoilt`).
-/
import Darkroom.Proofs.Choosing
import Darkroom.Proofs.Files
import Darkroom.Proofs.Refusals

namespace Darkroom

set_option autoImplicit false

open Outcome

/-- The same request for another file. -/
def Options.writtenAs (o : Options) (format : FormatChoice) (quality : Value) : Options :=
  { o with format := format, quality := quality }

namespace Encoding

variable {r : Raster} {f : Format}

/-- The formats that lose nothing keep a picture in RGB or RGBA as it is. -/
theorem ofPicture_of_plain (plain : r.mode = .rgb ∨ r.mode = .rgba) (keeps : f ∈ lossless)
    (quality : Value) (marks : Option Marks) :
    (ofPicture r f quality marks).outcome = .ok (single f r quality) := by
  rcases plain with isRgb | isRgba
  · exact ofPicture_of_rgb isRgb keeps
  · have allowed (modes : List Mode) (member : modes.contains .rgba = true) :
        checked modes r = .ok r := by
      rw [checked, isRgba, if_pos member]
    cases f
    case png => simp [ofPicture, allowed pngModes (by decide), single]
    case tiff => simp [ofPicture, allowed tiffModes (by decide), single]
    case bmp =>
      have member : bmpModes.contains r.mode = true := by rw [isRgba]; decide
      simp only [ofPicture, member, if_true, Logged.outcome_pure, single]
    case jpeg | gif => exact absurd keeps (by decide)

theorem ofPicture_congr (plain : f ≠ .jpeg) (quality quality' : Value)
    (marks marks' : Option Marks) :
    ofPicture r f quality marks = ofPicture r f quality' marks' := by
  cases f <;> first | rfl | exact absurd rfl plain

/-- A JPEG file of a picture: the mark that its colours pick is laid on it, and
the RGB part of that is handed to the writer, within the limits of the format. -/
def IsStamped (r : Raster) (marks : Marks) (quality : Value) (e : Encoding) : Prop :=
  ∃ choice stamped p,
    (Watermark.compose r marks Watermark.defaultOpacity).outcome = .ok (choice, stamped) ∧
      stamped.toRgb = .ok p ∧ e = .jpeg p quality ∧ checkedQuality quality = .ok () ∧
        p.width ≤ longestJpegSide ∧ p.height ≤ longestJpegSide

theorem stampedJpeg_iff {marks : Marks} {quality : Value} {e : Encoding} :
    (stampedJpeg r quality (some marks)).outcome = .ok e ↔ IsStamped r marks quality e := by
  simp only [stampedJpeg, Logged.outcome_bind, Logged.outcome_lift, outcome_ite, bind_eq_ok]
  constructor
  · rintro ⟨⟨choice, stamped⟩, composed, p, converted, ⟨⟩, checked, made⟩
    split_ifs at made with within
    · exact ⟨choice, stamped, p, composed, converted, (Except.ok.inj made).symm, checked, within⟩
    · cases made
  · rintro ⟨choice, stamped, p, composed, converted, rfl, checked, within⟩
    exact ⟨(choice, stamped), composed, p, converted, (), checked, by rw [if_pos within]; rfl⟩

/-- A picture within the limits of the format can be stamped. -/
theorem isStamped_found (plain : r.mode = .rgb ∨ r.mode = .rgba) (marks : Marks) {quality : Value}
    (whole : checkedQuality quality = .ok ()) (wide : 0 < r.width) (tall : 0 < r.height)
    (narrow : r.width ≤ longestJpegSide) (low : r.height ≤ longestJpegSide) :
    ∃ e, IsStamped r marks quality e := by
  have colours : r.isConvertible = true := Raster.isConvertible_of_plain plain
  have limit : longestJpegSide < 2 ^ 31 := by decide
  have roomy : longestJpegSide ≤ Span.roomyLength := by decide
  obtain ⟨⟨choice, stamped⟩, composed⟩ :=
    (Watermark.compose_found marks Watermark.defaultOpacity colours wide tall
      (narrow.trans_lt limit) (low.trans_lt limit)).found ⟨narrow.trans roomy, low.trans roomy⟩
  obtain ⟨p, made, width, height⟩ := Watermark.toRgb_of_compose colours composed
  exact ⟨.jpeg p quality, choice, stamped, p, composed, made, rfl, whole, width ▸ narrow,
    height ▸ low⟩

end Encoding

/-! ## Marks that are not to be had -/

namespace Mark

/-- A file that is recognised and comes to no mark, with the fault of its reader: its head
or its first picture is damaged in another way than that pixels cannot be read, or its
pixels have no colour. -/
inductive Spoilt (look : Lookup) (path : Path) : Fault → Prop
  | head {content : Content} {d : Damage} (found : look path = .ok content)
      (damaged : content.recognised = some (.error d)) (other : d ≠ .pixels) :
      Spoilt look path d.raised
  | picture {content : Content} {c : Container} {d : Damage} (found : look path = .ok content)
      (opened : content.recognised = some (.ok c)) (empty : c.frames = [])
      (damaged : c.damage = some d) (other : d ≠ .pixels) : Spoilt look path d.raised
  | colourless {content : Content} {c : Container} {first : Frame} {rest : List Frame}
      (found : look path = .ok content) (opened : content.recognised = some (.ok c))
      (frames : c.frames = first :: rest) (grey : first.picture.isConvertible = false) :
      Spoilt look path .noConversion

/-- What the reader fails with is never a missing asset. -/
theorem Spoilt.kind_ne_asset {look : Lookup} {path : Path} {fault : Fault}
    (spoilt : Spoilt look path fault) : fault.kind ≠ .asset := by
  have raised (d : Damage) : d.raised.kind ≠ .asset := by cases d <;> nofun
  cases spoilt with
  | head | picture => exact raised _
  | colourless => nofun

theorem ofRaster_fault {r : Raster} {fault : Fault} (failed : ofRaster r = .error fault) :
    fault = .noConversion ∧ r.isConvertible = false := by
  unfold ofRaster at failed
  split_ifs at failed with isRgba convertible
  exact ⟨(Except.error.inj failed).symm, by simpa using convertible⟩

/-- What a spoilt file is loaded as is the fault of its reader. -/
theorem Spoilt.load {look : Lookup} {path : Path} {fault : Fault}
    (spoilt : Spoilt look path fault) : load look path = .error fault := by
  have raised {d : Damage} (other : d ≠ .pixels) : damageFault path d = d.raised := by
    cases d <;> first | rfl | exact absurd rfl other
  cases spoilt with
  | head found damaged other => simp only [Mark.load, found, damaged, raised other]
  | picture found opened empty damaged other =>
      simp only [Mark.load, found, opened, empty, damaged, Option.getD_some, raised other]
  | @colourless content c first rest found opened frames grey =>
      have isRgba : first.picture.mode ≠ .rgba := by
        intro mode
        simp [Raster.isConvertible_of_plain (.inr mode)] at grey
      simp [Mark.load, found, opened, frames, ofRaster, isRgba, grey]

theorem damageFault_cases (path : Path) (d : Damage) :
    (damageFault path d).kind = .asset ∨ d ≠ .pixels ∧ damageFault path d = d.raised := by
  cases d
  case pixels => exact .inl rfl
  all_goals exact .inr ⟨nofun, rfl⟩

/-- A mark that cannot be loaded from a disk is an asset that is not to be had, or
its file is spoilt. -/
theorem load_fault {d : Disk} {path : Path} {fault : Fault} (plain : Disk.hasNull path = false)
    (failed : load (Disk.read d) path = .error fault) :
    fault.kind = .asset ∨ Spoilt (Disk.read d) path fault := by
  unfold load at failed
  split at failed
  case h_1 r refused =>
    split at failed
    case h_2 null => simp [Disk.nullAware_read.2 r refused null] at plain
    all_goals
      obtain rfl := Except.error.inj failed
      exact .inl rfl
  case h_2 content found =>
    split at failed
    case h_1 =>
      obtain rfl := Except.error.inj failed
      exact .inl rfl
    case h_2 damage damaged =>
      obtain rfl := Except.error.inj failed
      refine (damageFault_cases path damage).imp_right ?_
      rintro ⟨other, raised⟩
      rw [raised]
      exact .head found damaged other
    case h_3 c opened =>
      split at failed
      case h_1 first rest frames =>
        obtain ⟨rfl, grey⟩ := ofRaster_fault failed
        exact .inr (.colourless found opened frames grey)
      case h_2 empty =>
        obtain rfl := Except.error.inj failed
        cases damaged : c.damage with
        | none => exact .inl rfl
        | some damage =>
            refine (damageFault_cases path damage).imp_right ?_
            rintro ⟨other, raised⟩
            rw [Option.getD_some, raised]
            exact .picture found opened empty damaged other

/-- Exactly the spoilt files of a disk are neither a mark nor a missing asset. -/
theorem load_spoilt_iff {d : Disk} {path : Path} {fault : Fault}
    (plain : Disk.hasNull path = false) :
    load (Disk.read d) path = .error fault ∧ fault.kind ≠ .asset ↔
      Spoilt (Disk.read d) path fault :=
  ⟨fun ⟨failed, other⟩ => (load_fault plain failed).resolve_left other,
    fun spoilt => ⟨spoilt.load, spoilt.kind_ne_asset⟩⟩

end Mark

namespace Engine

variable {given : Option Marks} {shelf : Shelf} {look : Lookup} {source : Opened}
  {operation : Value} {o : Options} {step : Step} {f : Format} {format : FormatChoice}
  {quality : Value}

/-! ## The picture of a request -/

/-- What the step of a request comes to on the source, under the policy. -/
def picture (source : Opened) (step : Step) (o : Options) : Outcome Raster := do
  let (r, _) ← source.still.outcome
  (step.runScaled o r).outcome

/-- What a step comes to is as if it were decoded. -/
theorem isDecoded_of_picture {r : Raster} (came : picture source step o = .ok r) :
    r.IsDecoded := by
  obtain ⟨⟨s, sf⟩, decoded, ran⟩ := Outcome.bind_eq_ok.mp came
  obtain ⟨c, first, rest, -, -, -, made⟩ := Opened.still_eq_ok decoded
  exact (Raster.isDecoded_of_normalized made).of_sameKind (Step.runScaled_sameKind ran)

theorem prepareStill_picture (touched : (prepareStill source step o f).outcome ≠ .ok .unchanged) :
    (prepareStill source step o f).outcome =
      (picture source step o).map fun r => .still r f o.quality := by
  cases decoded : source.still.outcome with
  | error fault => simp [prepareStill, picture, decoded, Except.map]
  | ok opened =>
      obtain ⟨r, sf⟩ := opened
      rw [prepareStill_runScaled decoded touched, picture, decoded]
      rfl

/-! ## Another file -/

/-- Where a file is passed through hangs neither on the quality nor on the marks. -/
theorem prepareStill_writtenAs (quality' : Value) :
    (prepareStill source step (o.writtenAs format quality') f).outcome = .ok .unchanged ↔
      (prepareStill source step (o.writtenAs format quality) f).outcome = .ok .unchanged := by
  cases decoded : source.still.outcome with
  | error fault => simp [prepareStill, decoded]
  | ok opened =>
      obtain ⟨r, sf⟩ := opened
      rw [prepareStill_unchanged_iff decoded, prepareStill_unchanged_iff decoded]
      rfl

theorem prepareAnimation_writtenAs (quality' : Value) :
    (prepareAnimation source step (o.writtenAs format quality')).outcome =
      (prepareAnimation source step (o.writtenAs format quality)).outcome := by
  cases source with
  | none => rfl
  | some c =>
      cases frames : c.frames with
      | nil => simp [prepareAnimation, Animation.ofOpened, Opened.container, frames]
      | cons first rest =>
          rw [prepareAnimation_outcome frames, prepareAnimation_outcome frames,
            ← resamples_animationStep, Animation.transformed_outcome,
            Animation.transformed_outcome]
          rfl

/-! ## The last stage -/

/-- Only for a JPEG answer are marks needed. -/
theorem needsMarks_of_prepare {p : Prepared} (found : answerFormat source o = .ok f)
    (plain : f ≠ .jpeg) (prepared : (prepare source operation o).outcome = .ok p) :
    p.needsMarks = false := by
  obtain ⟨step, f', found', -, prepared⟩ := built_of_prepare prepared
  obtain rfl := Except.ok.inj (found.symm.trans found')
  split_ifs at prepared with isGif
  · obtain ⟨c, first, rest, rfl, frames⟩ := frames_of_prepareAnimation prepared
    rcases prepareAnimation_cases frames prepared with rfl | ⟨a, rfl⟩ <;> rfl
  · by_cases passed : (prepareStill source step o f).outcome = .ok .unchanged
    · obtain rfl := Except.ok.inj (passed.symm.trans prepared)
      rfl
    · rw [prepareStill_picture passed] at prepared
      obtain ⟨r, -, rfl⟩ := Outcome.map_eq_ok.mp prepared
      cases f <;> first | rfl | exact absurd rfl plain

/-- Without marks to look at, what is prepared is finished. -/
theorem reply_of_plain (found : answerFormat source o = .ok f) (plain : f ≠ .jpeg) :
    reply given shelf look source operation o =
      (prepare source operation o).outcome >>= fun p => (p.finish none).outcome := by
  rw [reply_eq]
  cases prepared : (prepare source operation o).outcome with
  | error fault => rfl
  | ok p =>
      rw [Outcome.ok_bind, Outcome.ok_bind, needsMarks_of_prepare found plain prepared]
      rfl

theorem assetFree_reply (found : answerFormat source o = .ok f)
    (free : f ≠ .jpeg ∨ reply given shelf look source operation o = .ok .unchanged) :
    AssetFree (reply given shelf look source operation o) := by
  rcases free with plain | passed
  · intro fault refused
    rw [reply_of_plain found plain] at refused
    cases prepared : (prepare source operation o).outcome with
    | error _ =>
        rw [prepared] at refused
        cases refused
        exact assetFree_prepare source operation o fault prepared
    | ok p =>
        rw [prepared] at refused
        exact assetFree_finish p none (needsMarks_of_prepare found plain prepared) fault refused
  · rw [passed]
    exact .ok _

/-- A JPEG picture waits for the marks. -/
theorem reply_of_jpeg {r : Raster}
    (prepared : (prepare source operation o).outcome = .ok (.still r .jpeg quality)) :
    reply given shelf look source operation o = (do
      let (m, _) ← (marks given shelf look).outcome
      (Encoding.stampedJpeg r quality (some m)).outcome.map .encoded) := by
  rw [reply_eq, prepared, Outcome.ok_bind, Prepared.needsMarks, if_pos rfl]
  cases (marks given shelf look).outcome with
  | error fault => rfl
  | ok got =>
      change ((Prepared.still r .jpeg quality).finish (some got.1)).outcome =
        (Encoding.stampedJpeg r quality (some got.1)).outcome.map .encoded
      rw [Prepared.finish, Logged.outcome_bind, Encoding.ofPicture]
      cases (Encoding.stampedJpeg r quality (some got.1)).outcome <;> rfl

section Paths

variable (valid : (o.writtenAs format quality).validate = .ok ())
  (found : answerFormat source (o.writtenAs format quality) = .ok f)
  (built : Step.build operation o = .ok step)

include valid found built

/-- The answer to a request for another file takes one of two paths. -/
theorem prepare_writtenAs : (prepare source operation (o.writtenAs format quality)).outcome =
    if f = .gif then (prepareAnimation source step (o.writtenAs format quality)).outcome
    else (prepareStill source step (o.writtenAs format quality) f).outcome := by
  have same : Step.build operation (o.writtenAs format quality) = .ok step := built
  rw [prepare_of operation valid found, same, Outcome.ok_bind]

/-- A still file that is not the source is made of the picture of the request. -/
theorem prepare_picture (still : f ≠ .gif)
    (touched : reply given shelf look source operation (o.writtenAs format quality) ≠
      .ok .unchanged) :
    (prepare source operation (o.writtenAs format quality)).outcome =
      (picture source step o).map fun r => .still r f quality := by
  rw [Ne, reply_unchanged_iff, prepare_writtenAs valid found built, if_neg still] at touched
  rw [prepare_writtenAs valid found built, if_neg still, prepareStill_picture touched]
  rfl

/-- Every format that loses nothing is handed the same picture. -/
theorem reply_lossless (keeps : f ∈ Encoding.lossless)
    (touched : reply given shelf look source operation (o.writtenAs format quality) ≠
      .ok .unchanged) :
    reply given shelf look source operation (o.writtenAs format quality) =
      (picture source step o).map fun r => .encoded (.single f r quality) := by
  have still : f ≠ .gif := by
    rintro rfl
    exact absurd keeps (by decide)
  have plain : f ≠ .jpeg := by
    rintro rfl
    exact absurd keeps (by decide)
  rw [reply_of_plain found plain, prepare_picture valid found built still touched]
  cases came : picture source step o with
  | error fault => rfl
  | ok r =>
      have encoded := Encoding.ofPicture_of_plain (isDecoded_of_picture came).plain keeps quality none
      change ((Prepared.still r f quality).finish none).outcome = _
      rw [Prepared.finish, Logged.outcome_bind, encoded]
      rfl

/-- Where no mark is laid on, neither the marks nor the quality matter. -/
theorem reply_writtenAs {quality' : Value}
    (valid' : (o.writtenAs format quality').validate = .ok ())
    (free : f ≠ .jpeg ∨ reply given shelf look source operation (o.writtenAs format quality) =
      .ok .unchanged) (given' : Option Marks) (shelf' : Shelf) (look' : Lookup) :
    reply given' shelf' look' source operation (o.writtenAs format quality') =
      reply given shelf look source operation (o.writtenAs format quality) := by
  have prepared := prepare_writtenAs valid found built
  have prepared' := prepare_writtenAs valid' found built
  by_cases passed : reply given shelf look source operation (o.writtenAs format quality) =
    .ok .unchanged
  case pos =>
    rw [passed, reply_unchanged_iff, prepared']
    rw [reply_unchanged_iff, prepared] at passed
    split_ifs at passed ⊢
    · rwa [prepareAnimation_writtenAs]
    · rwa [prepareStill_writtenAs]
  case neg =>
    have plain : f ≠ .jpeg := free.resolve_right passed
    rw [reply_of_plain found plain, reply_of_plain (o := o.writtenAs format quality') found plain]
    by_cases isGif : f = .gif
    · rw [prepared, prepared', if_pos isGif, if_pos isGif, prepareAnimation_writtenAs]
    · have touched : reply given' shelf' look' source operation (o.writtenAs format quality') ≠
          .ok .unchanged := by
        rw [reply_unchanged_iff, prepared, if_neg isGif] at passed
        rw [Ne, reply_unchanged_iff, prepared', if_neg isGif]
        exact passed.comp (prepareStill_writtenAs quality').mp
      rw [prepare_picture valid found built isGif passed,
        prepare_picture valid' found built isGif touched]
      cases picture source step o with
      | error fault => rfl
      | ok r =>
          change ((Prepared.still r f quality').finish none).outcome =
            ((Prepared.still r f quality).finish none).outcome
          rw [Prepared.finish, Prepared.finish,
            Encoding.ofPicture_congr plain quality' quality none none]

/-- A JPEG answer that is not the source waits for the marks. -/
theorem reply_jpeg (isJpeg : f = .jpeg)
    (touched : reply given shelf look source operation (o.writtenAs format quality) ≠
      .ok .unchanged) :
    reply given shelf look source operation (o.writtenAs format quality) = (do
      let r ← picture source step o
      let (m, _) ← (marks given shelf look).outcome
      (Encoding.stampedJpeg r quality (some m)).outcome.map .encoded) := by
  subst isJpeg
  have prepared := prepare_picture valid found built (by decide) touched
  cases came : picture source step o with
  | error fault =>
      rw [came] at prepared
      exact reply_of_fault prepared
  | ok r =>
      rw [came] at prepared
      exact reply_of_jpeg prepared

end Paths

/-- Marks that cannot be had are files that cannot. -/
theorem marks_fault {d : Disk} {fault : Fault}
    (failed : (marks given shelf (Disk.read d)).outcome = .error fault) :
    fault.kind = .asset ∨ ∃ path ∈ [Marks.plainPath, Marks.coloredPath],
      Mark.Spoilt (Disk.read d) (.ofText path) fault := by
  have file (path : String) (standard : path ∈ [Marks.plainPath, Marks.coloredPath])
      (failed : Mark.load (Disk.read d) (.ofText path) = .error fault) :
      fault.kind = .asset ∨ ∃ path ∈ [Marks.plainPath, Marks.coloredPath],
        Mark.Spoilt (Disk.read d) (.ofText path) fault := by
    have plain : Disk.hasNull (.ofText path) = false := by
      rcases List.mem_pair.mp standard with rfl | rfl <;> decide +kernel
    exact (Mark.load_fault plain failed).imp_right fun spoilt => ⟨path, standard, spoilt⟩
  cases given with
  | some m => cases failed
  | none =>
      cases kept : shelf.kept with
      | some h => simp [marks, Shelf.standard, kept] at failed
      | none =>
          simp only [marks, Shelf.standard, kept, Shelf.load, Marks.load, Logged.outcome_bind,
            Logged.outcome_lift] at failed
          cases first : Mark.load (Disk.read d) (.ofText Marks.plainPath) with
          | error fault' =>
              rw [first] at failed
              obtain rfl := Except.error.inj failed
              exact file _ (List.mem_cons_self ..) first
          | ok plain =>
              cases second : Mark.load (Disk.read d) (.ofText Marks.coloredPath) with
              | error fault' =>
                  rw [first, second] at failed
                  obtain rfl := Except.error.inj failed
                  exact file _ (List.mem_cons_of_mem _ (List.mem_cons_self ..)) second
              | ok colored =>
                  rw [first, second] at failed
                  cases failed

/-- Marks come last.  An answer that is not JPEG, or is the source, is one and the
same whatever the marks and the quality, and no asset is missing for it.  The
formats that lose nothing are handed one picture.  A JPEG file is that picture
stamped, or the marks are not to be had and that is why there is none. -/
theorem marks_last (valid : (o.writtenAs format quality).validate = .ok ())
    (found : answerFormat source (o.writtenAs format quality) = .ok f)
    (built : Step.build operation o = .ok step) (given : Option Marks) (shelf : Shelf)
    (look : Lookup) :
    let answer := reply given shelf look source operation (o.writtenAs format quality)
    (f ≠ .jpeg ∨ answer = .ok .unchanged → AssetFree answer ∧
      ∀ given' shelf' look' quality', (o.writtenAs format quality').validate = .ok () →
        reply given' shelf' look' source operation (o.writtenAs format quality') = answer) ∧
    (answer ≠ .ok .unchanged →
      (f ∈ Encoding.lossless →
        answer = (picture source step o).map fun r => .encoded (.single f r quality)) ∧
      (f = .jpeg →
        (∀ fault, picture source step o = .error fault → answer = .error fault) ∧
        ∀ r, picture source step o = .ok r →
          (∀ fault, (marks given shelf look).outcome = .error fault → answer = .error fault ∧
            ∀ d, look = Disk.read d → fault.kind = .asset ∨
              ∃ path ∈ [Marks.plainPath, Marks.coloredPath],
                Mark.Spoilt look (.ofText path) fault) ∧
          ∀ m later, (marks given shelf look).outcome = .ok (m, later) →
            AssetFree answer ∧
            (∀ e, answer = .ok (.encoded e) ↔ Encoding.IsStamped r m quality e) ∧
            (Encoding.checkedQuality quality = .ok () → 0 < r.width → 0 < r.height →
              r.width ≤ Encoding.longestJpegSide → r.height ≤ Encoding.longestJpegSide →
                ∃ e, answer = .ok (.encoded e)))) := by
  intro answer
  refine ⟨fun free => ⟨assetFree_reply found free, fun given' shelf' look' quality' valid' => ?_⟩,
    fun touched => ⟨fun keeps => ?_, fun isJpeg => ⟨fun fault failed => ?_, fun r came => ?_⟩⟩⟩
  · exact reply_writtenAs valid found built valid' free given' shelf' look'
  · exact reply_lossless valid found built keeps touched
  · rw [show answer = _ from reply_jpeg valid found built isJpeg touched, failed]
    rfl
  · have made : answer = _ := reply_jpeg valid found built isJpeg touched
    rw [came, Outcome.ok_bind] at made
    refine ⟨fun fault failed => ⟨?_, ?_⟩, fun m later loaded => ?_⟩
    · rw [made, failed]
      rfl
    · rintro d rfl
      exact marks_fault failed
    · rw [loaded, Outcome.ok_bind] at made
      have stamped (e : Encoding) :
          answer = .ok (.encoded e) ↔ Encoding.IsStamped r m quality e := by
        rw [made, ← Encoding.stampedJpeg_iff, Outcome.map_eq_ok]
        constructor
        · rintro ⟨e', encoded, same⟩
          cases same
          exact encoded
        · intro encoded
          exact ⟨e, encoded, rfl⟩
      refine ⟨?_, stamped, fun whole wide tall narrow low => ?_⟩
      · rw [made]
        exact ((Encoding.within_stampedJpeg r quality m).kinds.assetFree rfl).map _
      · obtain ⟨e, found⟩ :=
          Encoding.isStamped_found (isDecoded_of_picture came).plain m whole wide tall narrow low
        exact ⟨e, (stamped e).mpr found⟩

/-! ## A spoilt mark -/

/-- A disk with a file of one pixel for a mark, one sample of which is beyond the
largest that the file allows. -/
def spoiltDisk : Disk where
  nodes := [([Marks.plainPath], .file (.bytes
    #[80, 51, 10, 49, 32, 49, 10, 50, 53, 53, 10, 49, 32, 50, 32, 57, 57, 57, 10]))]

/-- A quarter of a turn. -/
def turned : Options := { degree := .number (.int 90) }

theorem turned_touched (format : FormatChoice) (quality : Value) (given : Option Marks)
    (shelf : Shelf) (look : Lookup) (source : Opened) :
    reply given shelf look source (.text Operation.rotate.name)
      (turned.writtenAs format quality) ≠ .ok .unchanged := by
  intro passed
  obtain ⟨step, r, built, declined⟩ := declined_of_unchanged (reply_unchanged_iff.mp passed)
  rw [Step.runsOn, Step.resamples_of_build built] at declined
  cases declined

/-- No mark is to be had, and the request fails, but not for an asset. -/
theorem spoilt_mark_escapes :
    Mark.load (Disk.read spoiltDisk) (.ofText Marks.plainPath) = .error .noConversion ∧
    reply none {} (Disk.read spoiltDisk) (some (blackFile .png)) (.text Operation.rotate.name)
      (turned.writtenAs (.format .jpeg) (.number (.int 95))) = .error .noConversion ∧
    Fault.noConversion.kind ≠ .asset := by
  have spoilt : Mark.load (Disk.read spoiltDisk) (.ofText Marks.plainPath) =
      .error .noConversion := rfl
  have built : Step.build (.text Operation.rotate.name) turned =
      .ok (.rotate (.number (.int 90)) .quarterTurn) := rfl
  refine ⟨spoilt, ?_, nofun⟩
  rw [reply_jpeg rfl rfl built rfl (turned_touched _ _ _ _ _ _), picture, still_blackFile]
  have failed : (marks none {} (Disk.read spoiltDisk)).outcome = .error .noConversion := by
    simp only [marks, Shelf.standard, Shelf.load, Marks.load, Logged.outcome_bind,
      Logged.outcome_lift, spoilt]
    rfl
  rw [Outcome.ok_bind, failed]
  rfl

/-- A turned picture as PNG is the same with another quality and with a spoilt mark
on the disk. -/
theorem turned_png_same :
    reply none {} (Disk.read spoiltDisk) (some (blackFile .png)) (.text Operation.rotate.name)
        (turned.writtenAs (.format .png) (.number (.int 7))) =
      reply none {} (Disk.read {}) (some (blackFile .png)) (.text Operation.rotate.name)
        (turned.writtenAs (.format .png) (.number (.int 95))) := by
  have built : Step.build (.text Operation.rotate.name) turned =
      .ok (.rotate (.number (.int 90)) .quarterTurn) := rfl
  have valid : (turned.writtenAs (.format .png) (.number (.int 95))).validate = .ok () := rfl
  have found : answerFormat (some (blackFile .png))
      (turned.writtenAs (.format .png) (.number (.int 95))) = .ok .png := rfl
  have plain := (marks_last valid found built none {} (Disk.read {})).1 (.inl (by decide))
  exact plain.2 none {} (Disk.read spoiltDisk) (.number (.int 7)) rfl

end Engine

end Darkroom
