/-
# Darkroom.Proofs.Shelving -- the standard marks over a whole run

Whatever happens in a studio, what the shelf keeps is settled by three kinds of acts
(`kept_of_asks`, `act_of_unhad`, `kept_of_idle`): asking for the standard marks puts
them there if they can be had and changes nothing if they cannot, clearing takes them
away, and every other act leaves them alone.  By induction, what was had once is had
until the shelf is cleared, whatever becomes of the files (`kept_after`), and an empty
shelf stays empty until the marks are had (`kept_after_fruitless`), so that the files are
read afresh.  `coherent` puts this together with what each act yields.

Marks are what their files show, in RGBA (`Mark.load_eq_ok`).  That the standard marks
cannot be had is a missing asset, but for a spoilt file (`spoilt_standard_escapes`).
-/
import Darkroom.Proofs.Stamping
import Darkroom.Studio

namespace Darkroom

set_option autoImplicit false

open Outcome

/-! ## Marks and what they are made of -/

namespace Mark

/-- A mark is a picture in RGBA. -/
structure IsOf (m : Mark) (r : Raster) : Prop where
  rgba : m.raster.mode = .rgba
  converted : r.toRgba = .ok m.raster

/-- A mark is the first picture of a file. -/
def IsIn (m : Mark) (look : Lookup) (path : String) : Prop :=
  ∃ content c first rest, look (.ofText path) = .ok content ∧ content.recognised = some (.ok c) ∧
    c.frames = first :: rest ∧ m.IsOf first.picture

theorem ofRaster_eq_ok {r : Raster} {m : Mark} : ofRaster r = .ok m ↔ m.IsOf r := by
  obtain ⟨raster, isRgba⟩ := m
  have same (p : Raster) (h : p.mode = .rgba) :
      (.ok ⟨p, h⟩ : Outcome Mark) = .ok ⟨raster, isRgba⟩ ↔ (.ok p : Outcome Raster) = .ok raster := by
    simp
  refine Iff.trans ?_ ⟨fun converted => ⟨isRgba, converted⟩, IsOf.converted⟩
  unfold ofRaster Raster.toRgba
  split_ifs with already convertible
  · exact same r already
  · exact same _ rfl
  · simp

theorem load_eq_ok {look : Lookup} {path : String} {m : Mark} :
    load look (.ofText path) = .ok m ↔ m.IsIn look path := by
  unfold load IsIn
  constructor
  · intro loaded
    split at loaded
    case h_1 => split at loaded <;> cases loaded
    case h_2 content found =>
      split at loaded
      case h_1 | h_2 => cases loaded
      case h_3 c opened =>
        split at loaded
        case h_1 first rest frames =>
          exact ⟨content, c, first, rest, found, opened, frames, ofRaster_eq_ok.mp loaded⟩
        case h_2 => cases loaded
  · rintro ⟨content, c, first, rest, found, opened, frames, isOf⟩
    simp only [found, opened, frames]
    exact ofRaster_eq_ok.mpr isOf

end Mark

namespace Marks

theorem ofRasters_eq_ok {plain colored : Raster} {m : Marks} :
    ofRasters plain colored = .ok m ↔ m.plain.IsOf plain ∧ m.colored.IsOf colored := by
  obtain ⟨first, second⟩ := m
  simp only [ofRasters, bind_eq_ok, Mark.ofRaster_eq_ok]
  constructor
  · rintro ⟨_, isPlain, _, isColored, ⟨⟩⟩
    exact ⟨isPlain, isColored⟩
  · rintro ⟨isPlain, isColored⟩
    exact ⟨first, isPlain, second, isColored, rfl⟩

theorem load_eq_ok {look : Lookup} {plain colored : String} {m : Marks} :
    (load look plain colored).outcome = .ok m ↔
      m.plain.IsIn look plain ∧ m.colored.IsIn look colored := by
  obtain ⟨first, second⟩ := m
  simp only [load, Logged.outcome_bind, Logged.outcome_lift, bind_eq_ok, Mark.load_eq_ok]
  constructor
  · rintro ⟨_, isPlain, _, isColored, _, _, ⟨⟩⟩
    exact ⟨isPlain, isColored⟩
  · rintro ⟨isPlain, isColored⟩
    exact ⟨first, isPlain, second, isColored, (), rfl, rfl⟩

end Marks

/-- A request leaves the shelf that its marks came with. -/
theorem Engine.shelf_of_transform {given : Option Marks} {shelf : Shelf} {look : Lookup}
    {source : Opened} {operation : Value} {o : Options} :
    (transform given shelf look source operation o).2 =
      match (prepare source operation o).outcome with
      | .error _ => shelf
      | .ok p =>
        if p.needsMarks then
          match (marks given shelf look).outcome with
          | .ok got => got.2
          | .error _ => shelf
        else shelf := by
  unfold transform
  obtain ⟨fault | p, entries⟩ := prepare source operation o
  · rfl
  · cases needs : p.needsMarks with
    | false => simp [needs]
    | true => cases found : (marks given shelf look).outcome <;> simp [needs, found]

namespace Studio

variable {s : Studio} {a : Act} {h : Holding} {fault : Fault}

/-! ## Asking for the standard marks -/

/-- The standard marks as they would be had now. -/
def standardMarks (s : Studio) : Outcome Holding :=
  (s.shelf.standard s.disk.read).outcome.map (·.1)

/-- The act asks for the standard marks: by name, or because it comes to a picture that
has to be stamped. -/
def Act.asks : Act → Bool
  | .standard => true
  | .request source operation o => match (Engine.prepare source operation o).outcome with
    | .ok p => p.needsMarks
    | .error _ => false
  | _ => false

theorem act_standard (s : Studio) : (s.act .standard).1 = .holding s.standardMarks := by
  simp only [act, standardMarks]
  cases (s.shelf.standard s.disk.read).outcome <;> rfl

theorem standardMarks_of_kept (kept : s.shelf.kept = some h) : s.standardMarks = .ok h := by
  rw [standardMarks, Shelf.standard, kept]
  rfl

/-- From an empty shelf the marks are had from the files. -/
theorem standardMarks_of_empty (empty : s.shelf.kept = none) : s.standardMarks =
    (Marks.load s.disk.read Marks.plainPath Marks.coloredPath).outcome.map (⟨·, s.shelf.made⟩) := by
  rw [standardMarks, Shelf.standard, empty]
  simp only [Shelf.load, Logged.outcome_bind]
  cases (Marks.load s.disk.read Marks.plainPath Marks.coloredPath).outcome <;> rfl

theorem kept_of_unhad (failed : s.standardMarks = .error fault) : s.shelf.kept = none := by
  cases kept : s.shelf.kept with
  | none => rfl
  | some h => cases (standardMarks_of_kept kept).symm.trans failed

/-- Where the marks are had, the shelf keeps them. -/
theorem shelf_of_had (had : s.standardMarks = .ok h) :
    ∃ shelf, (s.shelf.standard s.disk.read).outcome = .ok (h, shelf) ∧ shelf.kept = some h := by
  obtain ⟨⟨h', shelf⟩, found, rfl⟩ := map_eq_ok.mp had
  refine ⟨shelf, found, ?_⟩
  cases kept : s.shelf.kept with
  | some other =>
      rw [Shelf.standard, kept] at found
      cases found
      exact kept
  | none =>
      rw [Shelf.standard, kept] at found
      simp only [Logged.outcome_bind, bind_eq_ok] at found
      obtain ⟨_, -, ⟨⟩⟩ := found
      rfl

/-- What an engine without marks of its own stamps with. -/
theorem marks_eq : (Engine.marks none s.shelf s.disk.read).outcome =
    (s.shelf.standard s.disk.read).outcome.map fun got => (got.1.marks, got.2) := by
  simp only [Engine.marks, Logged.outcome_bind]
  cases (s.shelf.standard s.disk.read).outcome <;> rfl

section Requests

variable {source : Opened} {operation : Value} {o : Options}

theorem asks_request : (Act.request source operation o).asks = true ↔
    ∃ p, (Engine.prepare source operation o).outcome = .ok p ∧ p.needsMarks = true := by
  unfold Act.asks
  cases prepared : (Engine.prepare source operation o).outcome <;> simp [prepared]

/-- Only a JPEG file that is made anew is stamped. -/
theorem jpeg_of_asks (asks : (Act.request source operation o).asks = true) :
    Engine.answerFormat source o = .ok .jpeg ∧
      ∃ picture quality, (Engine.prepare source operation o).outcome =
        .ok (.still picture .jpeg quality) := by
  obtain ⟨p, prepared, needs⟩ := asks_request.mp asks
  obtain ⟨step, f, found, -, -⟩ := Engine.built_of_prepare prepared
  refine ⟨?_, ?_⟩
  · by_cases isJpeg : f = .jpeg
    · rwa [isJpeg] at found
    · rw [Engine.needsMarks_of_prepare found isJpeg prepared] at needs
      cases needs
  · unfold Prepared.needsMarks at needs
    split at needs
    · exact ⟨_, _, prepared⟩
    · cases needs

/-- The shelf after a request is the one that its marks came with, if it asked for any. -/
theorem shelf_of_request : (s.act (.request source operation o)).2.shelf =
    if (Act.request source operation o).asks then
      match (s.shelf.standard s.disk.read).outcome with
      | .ok got => got.2
      | .error _ => s.shelf
    else s.shelf := by
  change (Engine.transform none s.shelf s.disk.read source operation o).2 = _
  rw [Engine.shelf_of_transform, marks_eq]
  cases prepared : (Engine.prepare source operation o).outcome with
  | error fault => simp [Act.asks, prepared]
  | ok p =>
      have asks : (Act.request source operation o).asks = p.needsMarks := by
        simp [Act.asks, prepared]
      rw [asks]
      cases (s.shelf.standard s.disk.read).outcome <;> rfl

/-- A request that asks is answered as by an engine with the standard marks for its own. -/
theorem answer_of_request (asks : (Act.request source operation o).asks = true)
    (shelf : Shelf) (look : Lookup) :
    Engine.reply none s.shelf s.disk.read source operation o = (do
      let h ← s.standardMarks
      Engine.reply (some h.marks) shelf look source operation o) := by
  obtain ⟨p, prepared, needs⟩ := asks_request.mp asks
  simp only [Engine.reply_eq, prepared, ok_bind, needs, if_true, marks_eq, standardMarks]
  cases (s.shelf.standard s.disk.read).outcome <;> rfl

end Requests

/-! ## One act -/

/-- Asking keeps what is had. -/
theorem kept_of_asks (asks : a.asks = true) (had : s.standardMarks = .ok h) :
    (s.act a).2.shelf.kept = some h := by
  obtain ⟨shelf, found, kept⟩ := shelf_of_had had
  cases a
  case standard =>
    simp only [act, found, hold]
    exact kept
  case request source operation o =>
    rw [shelf_of_request, if_pos asks, found]
    exact kept
  all_goals cases asks

/-- Asking for what cannot be had changes nothing. -/
theorem act_of_unhad (asks : a.asks = true) (failed : s.standardMarks = .error fault) :
    (s.act a).2 = s := by
  have unhad := map_eq_error.mp failed
  cases a
  case standard => simp only [act, unhad, hold]
  case request source operation o =>
    have shelf : (s.act (.request source operation o)).2.shelf = s.shelf := by
      rw [shelf_of_request, if_pos asks, unhad]
    exact congrArg (Studio.mk s.disk) shelf
  all_goals cases asks

/-- Whatever else is done, the shelf keeps what it keeps. -/
theorem kept_of_idle (notClear : a ≠ .clear) (idle : a.asks = false) :
    (s.act a).2.shelf.kept = s.shelf.kept := by
  cases a
  case write | makeDirectories | remove => rfl
  case clear => exact absurd rfl notClear
  case standard => cases idle
  case load plain colored =>
    simp only [act, Shelf.load, Logged.outcome_bind]
    cases (Marks.load s.disk.read plain colored).outcome <;> rfl
  case assemble plain colored =>
    simp only [act]
    cases Marks.ofRasters plain colored <;> rfl
  case request source operation o => rw [shelf_of_request, idle, if_neg (by simp)]

/-! ## A run of acts -/

@[simp] theorem after_cons (s : Studio) (a : Act) (rest : List Act) :
    s.after (a :: rest) = (s.act a).2.after rest := rfl

/-- What the shelf keeps, it keeps until it is cleared. -/
theorem kept_after {acts : List Act} (kept : s.shelf.kept = some h) (unclear : .clear ∉ acts) :
    (s.after acts).shelf.kept = some h := by
  induction acts generalizing s with
  | nil => exact kept
  | cons a rest ih =>
      obtain ⟨notClear, later⟩ := not_or.mp (List.mem_cons.not.mp unclear)
      refine ih ?_ later
      cases asks : a.asks with
      | true => exact kept_of_asks asks (standardMarks_of_kept kept)
      | false => rw [kept_of_idle (Ne.symm notClear) asks, kept]

/-- A run in which the standard marks, whenever they are asked for, cannot be had. -/
def Fruitless : Studio → List Act → Prop
  | _, [] => True
  | s, a :: rest =>
      (a.asks = true → ∃ fault, s.standardMarks = .error fault) ∧ Fruitless (s.act a).2 rest

/-- An empty shelf stays empty until the marks are had. -/
theorem kept_after_fruitless {acts : List Act} (empty : s.shelf.kept = none)
    (fruitless : Fruitless s acts) : (s.after acts).shelf.kept = none := by
  induction acts generalizing s with
  | nil => exact empty
  | cons a rest ih =>
      obtain ⟨here, later⟩ := fruitless
      rw [after_cons]
      refine ih ?_ later
      by_cases isClear : a = .clear
      · subst isClear
        rfl
      cases asks : a.asks with
      | true =>
          obtain ⟨fault, failed⟩ := here asks
          rw [act_of_unhad asks failed, empty]
      | false => rw [kept_of_idle isClear asks, empty]

/-! ## Coherence -/

/-- The standard marks behave, from one state of a studio on, along all runs. -/
structure Coherent (s : Studio) : Prop where
  /-- Marks that were asked for and had are had, the very same, until the shelf is cleared. -/
  steady : ∀ a h between, a.asks = true → s.standardMarks = .ok h → .clear ∉ between →
    ((s.act a).2.after between).standardMarks = .ok h
  /-- Asking in vain leaves an empty shelf, as it was; an asset is missing, or spoilt. -/
  unhad : ∀ a fault, a.asks = true → s.standardMarks = .error fault →
    (s.act a).2 = s ∧ s.shelf.kept = none ∧
      (fault.kind = .asset ∨ ∃ path ∈ [Marks.plainPath, Marks.coloredPath],
        Mark.Spoilt s.disk.read (.ofText path) fault)
  /-- The first marks that are had after the shelf was cleared, or after they were asked for
  in vain, are what the two files show then. -/
  fresh : ∀ a between, (a = .clear ∨ a.asks = true ∧ ∃ fault, s.standardMarks = .error fault) →
    Fruitless (s.act a).2 between →
      let later := (s.act a).2.after between
      ∀ m, (∃ h, later.standardMarks = .ok h ∧ h.marks = m) ↔
        m.plain.IsIn later.disk.read Marks.plainPath ∧
          m.colored.IsIn later.disk.read Marks.coloredPath
  /-- No other act has a say in what is kept; such are all that name other files or other
  marks, and every request that is not answered with a new JPEG file. -/
  idle : ∀ a, a ≠ .clear → a.asks = false → (s.act a).2.shelf.kept = s.shelf.kept
  /-- Asked for by name, the marks are what there is to be had. -/
  standard : (s.act .standard).1 = .holding s.standardMarks
  /-- A request that asks is answered as by an engine to which the marks were given. -/
  request : ∀ source operation o, (Act.request source operation o).asks = true →
    ∃ answer, (s.act (.request source operation o)).1 = .answer answer ∧
      ∀ shelf look, answer.outcome = (do
        let h ← s.standardMarks
        Engine.reply (some h.marks) shelf look source operation o)
  /-- It asks for the sake of a JPEG file, and that is stamped with the marks that are had. -/
  stamped : ∀ source operation o, (Act.request source operation o).asks = true →
    Engine.answerFormat source o = .ok .jpeg ∧ ∃ picture quality,
      (Engine.prepare source operation o).outcome = .ok (.still picture .jpeg quality) ∧
        ∀ e, Engine.reply none s.shelf s.disk.read source operation o = .ok (.encoded e) ↔
          ∃ h, s.standardMarks = .ok h ∧ Encoding.IsStamped picture h.marks quality e
  /-- Marks that are loaded are what their files show, in RGBA. -/
  loaded : ∀ plain colored h, (s.act (.load plain colored)).1 = .holding (.ok h) →
    h.marks.plain.IsIn s.disk.read plain ∧ h.marks.colored.IsIn s.disk.read colored
  /-- Marks that are put together are their pictures, in RGBA. -/
  assembled : ∀ plain colored h, (s.act (.assemble plain colored)).1 = .holding (.ok h) →
    h.marks.plain.IsOf plain ∧ h.marks.colored.IsOf colored

/-- The fault of marks that cannot be had. -/
theorem fault_of_unhad (failed : s.standardMarks = .error fault) :
    fault.kind = .asset ∨ ∃ path ∈ [Marks.plainPath, Marks.coloredPath],
      Mark.Spoilt s.disk.read (.ofText path) fault := by
  have missed : (Engine.marks none s.shelf s.disk.read).outcome = .error fault := by
    rw [marks_eq, map_eq_error.mp failed]
    rfl
  exact Engine.marks_fault missed

/-- Marks are had of an empty shelf when the two files show them. -/
theorem had_of_empty (empty : s.shelf.kept = none) (m : Marks) :
    (∃ h, s.standardMarks = .ok h ∧ h.marks = m) ↔
      m.plain.IsIn s.disk.read Marks.plainPath ∧ m.colored.IsIn s.disk.read Marks.coloredPath := by
  rw [← Marks.load_eq_ok, standardMarks_of_empty empty]
  simp only [map_eq_ok]
  constructor
  · rintro ⟨_, ⟨m', loaded, rfl⟩, rfl⟩
    exact loaded
  · intro loaded
    exact ⟨_, ⟨m, loaded, rfl⟩, rfl⟩

/-- What is stamped on a JPEG file of a request that asks. -/
theorem stamped_of_request {source : Opened} {operation : Value} {o : Options} {picture : Raster}
    {quality : Value} {e : Encoding}
    (prepared : (Engine.prepare source operation o).outcome = .ok (.still picture .jpeg quality)) :
    Engine.reply none s.shelf s.disk.read source operation o = .ok (.encoded e) ↔
      ∃ h, s.standardMarks = .ok h ∧ Encoding.IsStamped picture h.marks quality e := by
  have made : Engine.reply none s.shelf s.disk.read source operation o = (do
      let h ← s.standardMarks
      (Encoding.stampedJpeg picture quality (some h.marks)).outcome.map .encoded) := by
    rw [Engine.reply_of_jpeg prepared, marks_eq, standardMarks]
    cases (s.shelf.standard s.disk.read).outcome <;> rfl
  simp only [made, bind_eq_ok, map_eq_ok, ← Encoding.stampedJpeg_iff, Answer.encoded.injEq,
    exists_eq_right]

/-- So they do in every state of every studio. -/
theorem coherent (s : Studio) : s.Coherent where
  steady a h between asks had unclear :=
    standardMarks_of_kept (kept_after (kept_of_asks asks had) unclear)
  unhad a fault asks failed :=
    ⟨act_of_unhad asks failed, kept_of_unhad failed, fault_of_unhad failed⟩
  fresh a between emptied fruitless := by
    refine had_of_empty (kept_after_fruitless ?_ fruitless)
    rcases emptied with rfl | ⟨asks, fault, failed⟩
    · rfl
    · rw [act_of_unhad asks failed]
      exact kept_of_unhad failed
  idle a notClear idle := kept_of_idle notClear idle
  standard := act_standard s
  request source operation o asks :=
    ⟨_, rfl, fun shelf look => answer_of_request asks shelf look⟩
  stamped source operation o asks := by
    obtain ⟨jpeg, picture, quality, prepared⟩ := jpeg_of_asks asks
    exact ⟨jpeg, picture, quality, prepared, fun e => stamped_of_request prepared⟩
  loaded plain colored h loaded := by
    simp only [act, hold, Shelf.load, Logged.outcome_bind] at loaded
    cases made : (Marks.load s.disk.read plain colored).outcome with
    | error fault => simp [made] at loaded
    | ok m =>
        rw [made] at loaded
        obtain rfl := Except.ok.inj (Yield.holding.inj loaded)
        exact Marks.load_eq_ok.mp made
  assembled plain colored h assembled := by
    simp only [act, hold] at assembled
    cases made : Marks.ofRasters plain colored with
    | error fault => simp [made] at assembled
    | ok m =>
        rw [made] at assembled
        obtain rfl := Except.ok.inj (Yield.holding.inj assembled)
        exact Marks.ofRasters_eq_ok.mp made

/-- A disk with the two files, of one transparent pixel each. -/
def markFiles : Disk where
  nodes := [Marks.plainPath, Marks.coloredPath].map fun path =>
    ([path], .file (.picture (.single "PNG" (.filled .rgba 1 1 fun _ => 0))))

/-- The marks are had when their files are gone. -/
theorem had_without_files :
    let s : Studio := ⟨markFiles, {}⟩
    let later := (s.act .standard).2.after
      [.remove (.ofText Marks.plainPath), .remove (.ofText Marks.coloredPath)]
    ∃ h, s.standardMarks = .ok h ∧ later.standardMarks = .ok h ∧
      Mark.load later.disk.read (.ofText Marks.plainPath) =
        .error (.assetMissing Marks.plainPath) := by
  intro s later
  have had : s.standardMarks = .ok ⟨⟨⟨.filled .rgba 1 1 fun _ => 0, rfl⟩,
    ⟨.filled .rgba 1 1 fun _ => 0, rfl⟩⟩, 0⟩ := rfl
  exact ⟨_, had, (coherent s).steady .standard _ _ rfl had (by simp), rfl⟩

/-- A spoilt file is no missing asset. -/
theorem spoilt_standard_escapes :
    ((⟨Engine.spoiltDisk, {}⟩ : Studio).act .standard).1 = .holding (.error .noConversion) ∧
      Fault.noConversion.kind ≠ .asset := by
  refine ⟨?_, nofun⟩
  rw [act_standard, standardMarks_of_empty rfl]
  rfl

end Studio

end Darkroom
