/-
# Darkroom.Proofs.Telling -- the report on a colour tells which mark is stamped

The mark in a report is picked by the rule that picks one for a picture, from the colour
alone, so it remains to see that the colours agree.  The colour of a source is found in
the picture that is stamped when a step is declined (`reply_declined`), and a picture
filled with one colour has that colour for its dominant one (`ofRaster_filled`).

A text that is a colour never looks like a flag, so a command line can give each of them
(`asksColor_hex`).
-/
import Darkroom.Proofs.Delivery
import Darkroom.Proofs.Stamping
import Darkroom.Proofs.Uniform

namespace Darkroom

set_option autoImplicit false

open Outcome

namespace Command

/-! ## A colour on the command line -/

/-- The switch that gives a colour. -/
def hexSwitch : Switch := ⟨"hex", ["--hex"], .store .text, false⟩

/-- The color command is told of a colour. -/
theorem colorGrammar_hex {text : String} (plain : text.toList.head? ≠ some '-') :
    colorGrammar.parse ["--hex", text] =
      .ok { settings := [("hex", .text text)], met := ["source", "hex"], given := ["hex"],
            places := [] } := by
  have undashed : text ≠ doubleDash := IsPlain.ne_doubleDash (.inl plain)
  have flag : colorGrammar.token "--hex" =
      .ok (.flag "--hex" (some ⟨hexSwitch, "--hex", none⟩)) := rfl
  have tokens : colorGrammar.tokens ["--hex", text] =
      .ok [.flag "--hex" (some ⟨hexSwitch, "--hex", none⟩), .plain text] := by
    rw [Grammar.tokens_cons (by decide), flag, ok_bind, Grammar.tokens_cons undashed,
      Grammar.token_plain _ plain]
    rfl
  have asked : colorGrammar.unfold hexSwitch "--hex" none [.plain text] =
      .ok ⟨[(hexSwitch, some text)], [], []⟩ := by
    simp [Grammar.unfold, hexSwitch]
  have stored (p : Progress) : colorGrammar.carryOut p hexSwitch (some text) =
      (do return (← colorGrammar.give "hex" p).set "hex" (.text text)) := by
    simp [Grammar.carryOut, hexSwitch, Grammar.store, undashed, Grammar.read]
  rw [Grammar.parse, tokens, ok_bind, Grammar.walk, Grammar.takeFlag]
  dsimp only
  simp only [asked, ok_bind, List.foldlM_cons, List.foldlM_nil, stored]
  rfl

/-- A text that does not look like a flag is read as the colour to be reported on. -/
theorem asksColor_hex {text : String} (plain : text.toList.head? ≠ some '-')
    (environment : Option String) :
    AsksColor ["color", "--hex", text] environment none (some text) := by
  have named : ∀ argument ∈ ["--hex", text], ¬IsBlankFlag argument := by
    simp only [List.forall_mem_cons]
    exact ⟨by unfold IsBlankFlag; decide +kernel, IsPlain.named (.inl plain), nofun⟩
  have command := parse_command (show "color" ∈ commandNames by decide) named
  have color : Operation.ofName? "color" = none := rfl
  refine ⟨⟨none, 0, 0, environment⟩, ?_⟩
  rw [Invocation.parse, command, ok_bind]
  change (requestOf "color" ["--hex", text] >>= _) = _
  rw [requestOf, color, colorGrammar_hex plain]
  rfl

/-- A text that is a colour is not empty and does not look like a flag. -/
theorem plain_of_ofHex {text : String} {c : Rgb} (accepted : Rgb.ofHex (.text text) = .ok c) :
    text ≠ "" ∧ text.toList.head? ≠ some '-' := by
  constructor
  · rintro rfl
    cases accepted
  · intro minus
    obtain ⟨rest, same⟩ := List.head?_eq_some_iff.mp minus
    have unread : Text.hexNumber? ('-' :: rest) = none := rfl
    simp [Rgb.ofHex, Rgb.ofHexText, same, Rgb.hexBody, unread] at accepted

end Command

/-! ## The mark of a picture -/

namespace Watermark

variable {base : Raster}

/-- A picture of one colour gets the mark that the score of the colour picks. -/
theorem choose_filled {c : Rgb} {score : Double} (colours : base.isConvertible = true)
    (filled : base.IsFilled c) (wide : 0 < base.width) (tall : 0 < base.height)
    (narrow : (base.width : ℤ) ≤ Dominant.defaultSample)
    (low : (base.height : ℤ) ≤ Dominant.defaultSample) (scored : colorScore c = .ok score) :
    ∃ choice, (choose base).outcome = .ok choice ∧ choice.variant = .ofScore score := by
  have found : (dominant base Dominant.defaultClusters Dominant.defaultSample).outcome =
      .ok ⟨c, none⟩ := by
    rw [dominant, Dominant.ofRaster_filled (by decide) colours filled wide tall narrow low]
    rfl
  exact ⟨_, choose_eq_ok.mpr ⟨_, score, found, scored, rfl⟩, rfl⟩

end Watermark

/-- A JPEG file of a picture with the mark of a variant on it, which is the one chosen. -/
def Encoding.StampedWith (v : Variant) (r : Raster) (marks : Marks) (quality : Value)
    (e : Encoding) : Prop :=
  ∃ choice stamp p, (Watermark.choose r).outcome = .ok choice ∧ choice.variant = v ∧
    Watermark.stamped r (marks.get v) Watermark.defaultOpacity = .ok stamp ∧
      stamp.toRgb = .ok p ∧ e = .jpeg p quality

/-- Every stamped file has such a mark on it. -/
theorem Encoding.IsStamped.stampedWith {r : Raster} {marks : Marks} {quality : Value}
    {e : Encoding} (made : IsStamped r marks quality e) :
    ∃ v, StampedWith v r marks quality e := by
  obtain ⟨choice, stamp, p, composed, converted, same, -⟩ := made
  obtain ⟨chosen, laid⟩ := Watermark.compose_eq_ok.mp composed
  exact ⟨_, choice, stamp, p, chosen, rfl, laid, converted, same⟩

/-! ## Declined requests -/

namespace Engine

variable {given : Option Marks} {shelf : Shelf} {look : Lookup} {source : Opened}
  {operation : Value} {o : Options} {r : Raster} {sf : Format}

/-- A request for JPEG whose step the policy declines on a picture, so that it is a
resample. -/
structure DeclinesJpeg (operation : Value) (o : Options) (r : Raster) : Prop where
  valid : o.validate = .ok ()
  jpeg : o.requestedFormat = .ok (some .jpeg)
  declined : ∃ step, Step.build operation o = .ok step ∧ step.runsOn o r = .ok false

/-- Of a picture without pixels the policy is not asked. -/
theorem DeclinesJpeg.sides_pos (request : DeclinesJpeg operation o r) :
    0 < r.width ∧ 0 < r.height := by
  obtain ⟨step, -, declined⟩ := request.declined
  refine step.sides_pos_of_runsOn ?_ declined
  by_contra turns
  rw [Step.runsOn, if_neg turns] at declined
  cases declined

/-- The picture of the source itself is what is stamped. -/
theorem reply_declined (decoded : source.still.outcome = .ok (r, sf)) (foreign : sf ≠ .jpeg)
    (request : DeclinesJpeg operation o r) :
    reply given shelf look source operation o = (do
      let (m, _) ← (marks given shelf look).outcome
      (Encoding.stampedJpeg r o.quality (some m)).outcome.map .encoded) := by
  obtain ⟨step, built, declined⟩ := request.declined
  have found : answerFormat source o = .ok .jpeg := by
    rw [answerFormat, request.jpeg]
    rfl
  refine reply_of_jpeg ?_
  rw [prepare_of operation request.valid found, built, ok_bind, if_neg (by decide),
    prepareStill_outcome decoded, declined, ok_bind]
  simp [foreign.symm]

/-- What is answered is stamped, with marks that were to be had. -/
theorem stamped_of_declined (decoded : source.still.outcome = .ok (r, sf))
    (foreign : sf ≠ .jpeg) (request : DeclinesJpeg operation o r) {a : Answer}
    (answered : reply given shelf look source operation o = .ok a) : ∃ m later e v,
    (marks given shelf look).outcome = .ok (m, later) ∧ a = .encoded e ∧
      Encoding.StampedWith v r m o.quality e := by
  rw [reply_declined decoded foreign request] at answered
  obtain ⟨⟨m, later⟩, loaded, answered⟩ := bind_eq_ok.mp answered
  obtain ⟨e, encoded, rfl⟩ := Outcome.map_eq_ok.mp answered
  obtain ⟨v, stamped⟩ := (Encoding.stampedJpeg_iff.mp encoded).stampedWith
  exact ⟨m, later, e, v, loaded, rfl, stamped⟩

/-- With marks and a whole quality, a picture within the limits of JPEG is answered. -/
theorem declined_answered (decoded : source.still.outcome = .ok (r, sf)) (foreign : sf ≠ .jpeg)
    (request : DeclinesJpeg operation o r) {m : Marks} {later : Shelf}
    (loaded : (marks given shelf look).outcome = .ok (m, later))
    (whole : Encoding.checkedQuality o.quality = .ok ())
    (narrow : r.width ≤ Encoding.longestJpegSide) (low : r.height ≤ Encoding.longestJpegSide) :
    ∃ a, reply given shelf look source operation o = .ok a := by
  obtain ⟨c, first, rest, -, -, -, made⟩ := Opened.still_eq_ok decoded
  obtain ⟨wide, tall⟩ := request.sides_pos
  obtain ⟨e, stamped⟩ :=
    Encoding.isStamped_found (Raster.normalized_mode made) m whole wide tall narrow low
  refine ⟨.encoded e, ?_⟩
  rw [reply_declined decoded foreign request, loaded, ok_bind]
  dsimp only
  rw [Encoding.stampedJpeg_iff.mpr stamped]
  rfl

end Engine

/-! ## One mark -/

namespace Command

/-- A run that ends well and tells this mark and no other. -/
structure Report.Names (out : Report) (v : Variant) : Prop where
  ending : out.ending = .code 0
  told : ∀ w, Tells out.printed w ↔ w = v

variable {s : Session} {arguments : List String} {environment source hex : Option String}

/-- A run on a colour tells the mark that the score of the colour picks. -/
theorem names_of_colorFor (takes : ∀ c, s.stream c = none) (stdin : Content) {c : Rgb}
    (asks : AsksColor arguments environment source hex)
    (asked : ColorFor s.disk.read source hex (.ok c)) : ∃ score,
    Watermark.colorScore c = .ok score ∧
      (run s stdin environment arguments).1.Names (.ofScore score) := by
  obtain ⟨wish, parsed⟩ := asks
  obtain ⟨score, before, scored, text⟩ := colorText_found c
  obtain ⟨ending, printed, -⟩ := run_of_parse s stdin parsed
  rw [work_of_color asked, colorWork, text] at ending printed
  simp only [Work.carryOut, takes] at ending printed
  have told : Tells (run s stdin environment arguments).1.printed (.ofScore score) :=
    ⟨before, printed⟩
  refine ⟨score, scored, ending, fun w => ⟨fun other => other.unique told, ?_⟩⟩
  rintro rfl
  exact told

/-- The mark on a stamped picture is told by a run on the colour of the picture. -/
theorem names_of_stamped (takes : ∀ c, s.stream c = none) (stdin : Content) {path : String}
    {content : Content} {r : Raster} {sf : Format} {m : Marks} {quality : Value} {e : Encoding}
    {v : Variant}
    (asks : AsksColor arguments environment (some path) hex) (unasked : givenPath hex = none)
    (read : s.disk.read (.ofText path) = .ok content)
    (decoded : content.opened.still.outcome = .ok (r, sf))
    (stamped : Encoding.StampedWith v r m quality e) :
    (run s stdin environment arguments).1.Names v := by
  obtain ⟨choice, stamp, p, chosen, rfl, -⟩ := stamped
  obtain ⟨answer, score, found, scored, rfl⟩ := Watermark.choose_eq_ok.mp chosen
  have color : (colorOf content.opened).outcome = .ok answer.color := by
    simp only [colorOf, Logged.outcome_bind, decoded, ok_bind, found, Logged.outcome_pure]
  obtain ⟨score', scored', names⟩ :=
    names_of_colorFor takes stdin asks (color ▸ ColorFor.picture unasked read)
  obtain rfl := Except.ok.inj (scored.symm.trans scored')
  exact names

/-- The report on a colour, where it is taken, tells which mark is stamped.  For a picture
that is no JPEG file it is the mark that is laid on it in every request for JPEG that the
policy declines, whatever the step, the options and the marks; there is a report unless
there is no room to look for the colour.  For a text it is the mark that is chosen for
every picture filled with that colour which is not sampled down. -/
theorem color_tells (s : Session) (takes : ∀ c, s.stream c = none) (stdin : Content)
    (environment : Option String) :
    (∀ arguments path hex content r sf, AsksColor arguments environment (some path) hex →
      givenPath hex = none → s.disk.read (.ofText path) = .ok content →
      content.opened.still.outcome = .ok (r, sf) → sf ≠ .jpeg →
      let out := (run s stdin environment arguments).1
      (0 < r.width → 0 < r.height → r.width < 2 ^ 31 → r.height < 2 ^ 31 →
        (∃ v, out.Names v) ∨ out.ending = .broken .outOfRoom ∧ ¬r.IsShort) ∧
      ∀ operation o, Engine.DeclinesJpeg operation o r → ∀ given shelf look,
        (∀ a, Engine.reply given shelf look content.opened operation o = .ok a →
          ∃ m later e v, (Engine.marks given shelf look).outcome = .ok (m, later) ∧
            a = .encoded e ∧ Encoding.StampedWith v r m o.quality e ∧ out.Names v) ∧
        ∀ m later, (Engine.marks given shelf look).outcome = .ok (m, later) →
          Encoding.checkedQuality o.quality = .ok () → r.width ≤ Encoding.longestJpegSide →
          r.height ≤ Encoding.longestJpegSide →
            ∃ a, Engine.reply given shelf look content.opened operation o = .ok a) ∧
    ∀ text c, Rgb.ofHex (.text text) = .ok c →
      AsksColor ["color", "--hex", text] environment none (some text) ∧
      ∀ arguments source, AsksColor arguments environment source (some text) →
        ∃ v, (run s stdin environment arguments).1.Names v ∧
          ∀ r : Raster, r.isConvertible = true → r.IsFilled c → 0 < r.width → 0 < r.height →
            (r.width : ℤ) ≤ Dominant.defaultSample → (r.height : ℤ) ≤ Dominant.defaultSample →
              ∃ choice, (Watermark.choose r).outcome = .ok choice ∧ choice.variant = v := by
  refine ⟨fun arguments path hex content r sf asks unasked read decoded foreign => ⟨?_, ?_⟩,
    fun text c accepted => ?_⟩
  · intro wide tall narrow low
    obtain ⟨c, found⟩ | ⟨full, long⟩ := colorOf_found decoded wide tall narrow low
    · obtain ⟨score, -, names⟩ := names_of_colorFor takes stdin asks
        (found ▸ ColorFor.picture unasked read)
      exact .inl ⟨_, names⟩
    · obtain ⟨wish, parsed⟩ := asks
      refine .inr ⟨?_, long⟩
      exact (run_of_parse s stdin parsed).1.trans (ending_of_breaks (.color unasked read full rfl))
  · intro operation o request given shelf look
    refine ⟨fun a answered => ?_, fun m later loaded whole narrow low =>
      Engine.declined_answered decoded foreign request loaded whole narrow low⟩
    obtain ⟨m, later, e, v, loaded, rfl, stamped⟩ :=
      Engine.stamped_of_declined decoded foreign request answered
    exact ⟨m, later, e, v, loaded, rfl, stamped,
      names_of_stamped takes stdin asks unasked read decoded stamped⟩
  · obtain ⟨some_, plain⟩ := plain_of_ofHex accepted
    refine ⟨asksColor_hex plain environment, fun arguments source asks => ?_⟩
    have given : givenPath (some text) = some text := by simp [givenPath, some_]
    obtain ⟨score, scored, names⟩ := names_of_colorFor takes stdin asks
      (accepted ▸ ColorFor.text given)
    exact ⟨_, names, fun r colours filled wide tall narrow low =>
      Watermark.choose_filled colours filled wide tall narrow low scored⟩

/-- An enlargement that is not allowed, as JPEG. -/
def enlargedJpeg : Options :=
  { width := .number (.int 8), height := .number (.int 4), format := .format .jpeg }

/-- Two marks of one pixel. -/
def whiteMarks : Marks :=
  ⟨⟨.filled .rgba 1 1 fun _ => 255, rfl⟩, ⟨.filled .rgba 1 1 fun _ => 255, rfl⟩⟩

def redPicture : Raster := .filled .rgb 5 3 fun k => if k = 0 then 255 else 0

/-- A run on the one file of a disk tells the mark that is laid on its picture, and a run
on a red tells the mark for a red picture. -/
theorem lone_told :
    (∃ e v, Engine.reply (some whiteMarks) {} lone.read (some (Engine.blackFile .png))
        (.text Operation.resize.name) enlargedJpeg = .ok (.encoded e) ∧
      Encoding.StampedWith v (.filled .rgb 4 2 fun _ => 0) whiteMarks enlargedJpeg.quality e ∧
      (run { disk := lone } (.bytes #[]) none ["color", "a.png"]).1.Names v) ∧
    ∃ v, (run { disk := lone } (.bytes #[]) none ["color", "--hex", "#ff0000"]).1.Names v ∧
      ∃ choice, (Watermark.choose redPicture).outcome = .ok choice ∧ choice.variant = v := by
  obtain ⟨pictures, texts⟩ := color_tells { disk := lone } (fun _ => rfl) (.bytes #[]) none
  have asks : AsksColor ["color", "a.png"] none (some "a.png") none :=
    ⟨⟨none, 0, 0, none⟩, eq_ok_of_toOption (by decide +kernel)⟩
  constructor
  · obtain ⟨-, requests⟩ := pictures _ _ _ (.picture (Engine.blackFile .png)) _ _ asks rfl rfl
      (Engine.still_blackFile .png) (by decide)
    have declined : Engine.DeclinesJpeg (.text Operation.resize.name) enlargedJpeg
        (.filled .rgb 4 2 fun _ => 0) :=
      ⟨rfl, rfl, _, rfl, eq_ok_of_toOption (by decide +kernel)⟩
    obtain ⟨stamped, answered⟩ := requests _ _ declined (some whiteMarks) {} lone.read
    obtain ⟨a, found⟩ := answered whiteMarks {} rfl rfl (by decide) (by decide)
    obtain ⟨m, later, e, v, loaded, rfl, made, names⟩ := stamped a found
    cases loaded
    exact ⟨e, v, found, made, names⟩
  · have red : Rgb.ofHex (.text "#ff0000") = .ok ⟨255, 0, 0⟩ := rfl
    have filled : ∀ (x : Fin 5) (y : Fin 3), (redPicture.pixelAt x y).red = 255 ∧
        (redPicture.pixelAt x y).green = 0 ∧ (redPicture.pixelAt x y).blue = 0 := by
      decide +kernel
    obtain ⟨asked, told⟩ := texts _ _ red
    obtain ⟨v, names, chosen⟩ := told _ _ asked
    exact ⟨v, names, chosen redPicture rfl (fun x y hx hy => filled ⟨x, hx⟩ ⟨y, hy⟩) (by decide)
      (by decide) (by decide) (by decide)⟩

end Command

end Darkroom
