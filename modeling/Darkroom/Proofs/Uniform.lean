/-
# Darkroom.Proofs.Uniform -- the dominant colour of one colour

Where all pixels have one colour that is the answer (`answer_uniform`), so a picture of
one colour that fits the sample size has that colour (`ofRaster_filled`).

A picture that does not fit is made smaller first.  The pixels of a flat picture are
means of equal bytes, so it stays flat (`IsFlat.resampleBytes`); but its channels are
multiplied by the alpha and divided by it again, each time in bytes, and that does not
give them back (`Rgba.faded`): every colour of an alpha comes back only when the alpha
is full (`faded_all_iff`), and none but black comes back when it is zero.
-/
import Darkroom.Proofs.Frequent
import Darkroom.Proofs.Solid

namespace Darkroom

set_option autoImplicit false

/-! ## Pixels of one colour -/

/-- The dominant colour of pixels of one colour. -/
theorem Dominant.answer_uniform {colors : Array Rgb} {c : Rgb} {clusters : ℤ}
    (positive : 1 ≤ clusters) (some_ : colors ≠ #[]) (same : ∀ d ∈ colors, d = c) :
    answer colors clusters = .ok ⟨c, none⟩ := by
  have one : (colors.toList : Multiset Rgb).toFinset ⊆ {c} := by
    intro d member
    rw [Multiset.mem_toFinset, Multiset.mem_coe, Array.mem_toList_iff] at member
    exact Finset.mem_singleton.mpr (same d member)
  have few : ((colors.toList : Multiset Rgb).toFinset.card : ℤ) ≤ clusters :=
    (Nat.cast_le.mpr (Finset.card_le_card one)).trans (by simpa using positive)
  have mode := isMode_mostFrequent some_
  rw [same _ (Array.mem_toList_iff.mp (Multiset.mem_coe.mp mode.occurs))] at mode
  exact (answer_few few).mpr ⟨rfl, mode⟩

/-- Every pixel has one colour, whatever its alpha. -/
def Raster.IsFilled (r : Raster) (c : Rgb) : Prop :=
  ∀ x y, x < r.width → y < r.height →
    (r.pixelAt x y).red = c.red ∧ (r.pixelAt x y).green = c.green ∧ (r.pixelAt x y).blue = c.blue

/-- So has its picture in RGBA. -/
theorem Raster.IsFilled.toRgba {r p : Raster} {c : Rgb} (filled : r.IsFilled c)
    (made : r.toRgba = .ok p) : p.IsFilled c := by
  obtain ⟨width, height⟩ := toRgba_size made
  intro x y hx hy
  rw [pixelAt_toRgba made (width ▸ hx) (height ▸ hy)]
  exact filled x y (width ▸ hx) (height ▸ hy)

namespace Dominant

variable {r : Raster} {c : Rgb} {clusters edge : ℤ}

theorem visibleColors_filled (filled : r.IsFilled c) : ∀ d ∈ visibleColors r, d = c := by
  intro d member
  obtain ⟨p, seen, rfl⟩ := Array.mem_map.mp member
  obtain ⟨x, y, hx, hy, rfl⟩ := mem_pixelRow (mem_pixelRow_of_seen seen)
  obtain ⟨red, green, blue⟩ := filled x y hx hy
  rw [red, green, blue]

theorem ofRaster_of_sample {p : Raster} (positive : 1 ≤ clusters) (sampled : sample r edge = .ok p)
    (filled : p.IsFilled c) (wide : 0 < p.width) (tall : 0 < p.height) :
    ofRaster r clusters edge = .ok ⟨c, none⟩ := by
  rw [ofRaster, sampled, Outcome.ok_bind]
  exact answer_uniform positive (visibleColors_ne_empty wide tall) (visibleColors_filled filled)

/-- A picture of one colour, within the sample size, has that for its dominant colour. -/
theorem ofRaster_filled (positive : 1 ≤ clusters) (colours : r.isConvertible = true)
    (filled : r.IsFilled c) (wide : 0 < r.width) (tall : 0 < r.height)
    (narrow : (r.width : ℤ) ≤ edge) (low : (r.height : ℤ) ≤ edge) :
    ofRaster r clusters edge = .ok ⟨c, none⟩ := by
  obtain ⟨rgba, converted⟩ := r.toRgba_found colours
  obtain ⟨width, height⟩ := Raster.toRgba_size converted
  exact ofRaster_of_sample positive (sample_of_fits converted narrow low) (filled.toRgba converted)
    (width ▸ wide) (height ▸ tall)

end Dominant

/-! ## Flat pictures -/

namespace Raster

/-- Every pixel has the same bytes. -/
def IsFlat (r : Raster) (pixel : Nat → UInt8) : Prop :=
  ∀ x y c, x < r.width → y < r.height → c < r.mode.bytes → r.byteAt x y c = pixel c

section Flat

variable {r : Raster} {pixel : Nat → UInt8}

theorem isFlat_remap {width height : Nat} {f : Nat → Nat → Nat → UInt8}
    (same : ∀ x y c, x < width → y < height → c < r.mode.bytes → f x y c = pixel c) :
    (r.remap width height f).IsFlat pixel :=
  fun x y c hx hy hc => (byteAt_remap (r := r) hx hy hc).trans (same x y c hx hy hc)

theorem isFlat_filled (mode : Mode) (width height : Nat) (pixel : Nat → UInt8) :
    (filled mode width height pixel).IsFlat pixel :=
  fun _ _ _ hx hy hc => byteAt_tabulate hx hy hc

theorem IsFlat.resampleRows (flat : r.IsFlat pixel) (f : Filter) (s : Span) (count : Nat)
    (wide : 0 < r.width) : (r.resampleRows f s count).IsFlat pixel := by
  rw [resampleRows_eq r f s count wide]
  refine isFlat_remap fun x y c hx hy hc => ?_
  rw [Window.mean_congr _ fun k hk => congrArg UInt8.toNat (flat k y c hk hy hc), Window.mean_const]

theorem IsFlat.resampleColumns (flat : r.IsFlat pixel) (f : Filter) (s : Span) (count : Nat)
    (tall : 0 < r.height) : (r.resampleColumns f s count).IsFlat pixel := by
  rw [resampleColumns_eq r f s count tall]
  refine isFlat_remap fun x y c hx hy hc => ?_
  rw [Window.mean_congr _ fun k hk => congrArg UInt8.toNat (flat x k c hx hk hc), Window.mean_const]

/-- What is flat stays flat at another size. -/
theorem IsFlat.resampleBytes (flat : r.IsFlat pixel) (f : Filter) (region : Region)
    (width height : Nat) (wide : 0 < r.width) (tall : 0 < r.height) :
    (r.resampleBytes f region width height).IsFlat pixel := by
  have rows := flat.resampleRows f region.across width wide
  unfold Raster.resampleBytes
  dsimp only
  split_ifs
  · exact flat
  · exact rows
  · exact flat.resampleColumns f _ _ tall
  · exact rows.resampleColumns f _ _ (by simpa using tall)

end Flat

end Raster

/-! ## Fading -/

/-- A channel that was multiplied by an alpha and divided by it again. -/
def Channel.fadeByte (c a : UInt8) : UInt8 := unscaleByte (scaleByte c a) a

/-- An alpha that is not full loses some byte: one that is faint comes back dark, and one
that is nearly white a little less so. -/
theorem Channel.fadeByte_loses {a : UInt8} (partly : a ≠ 255) : ∃ c, fadeByte c a ≠ c := by
  have lost : ∀ a : Fin 255, fadeByte (if a.val < 128 then 1 else 254) (.ofNat a) ≠
      if a.val < 128 then 1 else 254 := by
    decide +kernel
  have below : a.toNat < 255 := by
    have byte := a.toNat_lt
    have other : a.toNat ≠ 255 := fun full => partly (UInt8.toNat_inj.mp full)
    omega
  have found := lost ⟨a.toNat, below⟩
  rw [UInt8.ofNat_toNat] at found
  exact ⟨_, found⟩

namespace Rgba

/-- A pixel whose colour was multiplied by its alpha and divided by it again. -/
def faded (p : Rgba) : Rgba :=
  ⟨Channel.fadeByte p.red p.alpha, Channel.fadeByte p.green p.alpha,
    Channel.fadeByte p.blue p.alpha, p.alpha⟩

/-- All colours of an alpha are given back only when the alpha is full. -/
theorem faded_all_iff (a : UInt8) :
    (∀ p : Rgba, p.alpha = a → p.faded.color = p.color) ↔ a = 255 := by
  constructor
  · intro kept
    by_contra partly
    obtain ⟨c, lost⟩ := Channel.fadeByte_loses partly
    exact lost (congrArg Rgb.red (kept ⟨c, 0, 0, a⟩ rfl))
  · rintro rfl ⟨red, green, blue, alpha⟩ rfl
    simp only [color, faded, Channel.fadeByte, Raster.scale_full, Raster.unscale_full]

/-- Of a colour that cannot be seen nothing is left. -/
theorem faded_of_clear {p : Rgba} (clear : p.alpha = 0) : p.faded.color = ⟨0, 0, 0⟩ := by
  have black (c : UInt8) : Channel.fadeByte c 0 = 0 := by
    simp [Channel.fadeByte, Channel.unscaleByte, Channel.scaleByte, Channel.unscale, Channel.scale]
  simp only [color, faded, clear, black]

end Rgba

namespace Raster

variable {r : Raster} {p : Rgba}

theorem IsFlat.pixelAt (flat : r.IsFlat p.channel) (mode : r.mode = .rgba) {x y : Nat}
    (hx : x < r.width) (hy : y < r.height) : r.pixelAt x y = p := by
  have byte (c : Nat) (hc : c < 4) : r.byteAt x y c = p.channel c :=
    flat x y c hx hy (mode ▸ hc)
  rw [pixelAt_of_rgba mode, byte 0 (by decide), byte 1 (by decide), byte 2 (by decide),
    byte 3 (by decide)]
  rfl

theorem IsFlat.isFilled (flat : r.IsFlat p.channel) (mode : r.mode = .rgba) :
    r.IsFilled p.color := by
  intro x y hx hy
  rw [flat.pixelAt mode hx hy]
  exact ⟨rfl, rfl, rfl⟩

theorem IsFlat.premultiplied (flat : r.IsFlat p.channel) (mode : r.mode = .rgba) :
    (r.premultiplied 3).IsFlat p.multiplied.channel := by
  intro x y c hx hy hc
  have channels : c < Mode.rgba.bytes := mode ▸ hc
  rw [byteAt_premultiplied mode hx hy channels, flat.pixelAt mode hx hy]

theorem IsFlat.unpremultiplied (flat : r.IsFlat p.multiplied.channel) (mode : r.mode = .rgba) :
    (r.unpremultiplied 3).IsFlat p.faded.channel := by
  refine isFlat_remap fun x y c hx hy hc => ?_
  rw [flat x y c hx hy hc, flat x y 3 hx hy (mode ▸ by decide)]
  rw [mode] at hc
  change c < 4 at hc
  interval_cases c <;> rfl

/-- A flat picture is flat at another size, its colour faded. -/
theorem IsFlat.resampled (flat : r.IsFlat p.channel) (mode : r.mode = .rgba) (f : Filter)
    (region : Region) {width height : Nat} (wide : 0 < r.width) (tall : 0 < r.height)
    (other : ¬(width = r.width ∧ height = r.height)) :
    (r.resampled f region width height).IsFlat p.faded.channel := by
  have moved : r.isWhole region width height ≠ true := fun whole => other (size_of_isWhole whole)
  have kept := (sameKind_resampleBytes (r.premultiplied 3) f region width height).mode
  have bytes := (flat.premultiplied mode).resampleBytes f region width height wide tall
  rw [Raster.resampled, if_neg moved, mode]
  exact bytes.unpremultiplied (kept.trans mode)

end Raster

namespace Dominant

variable {width height : ℕ} {clusters edge : ℤ}

/-- The dominant colour of a picture filled with one colour: that colour, and faded if
the picture has to be made smaller, if there is room for that. -/
theorem ofRaster_uniform (p : Rgba) (wide : 0 < width) (tall : 0 < height) (positive : 1 ≤ clusters)
    (some_ : 1 ≤ edge) (ordinary : (width : ℤ) ≤ edge ∧ (height : ℤ) ≤ edge ∨
      width < 2 ^ 31 ∧ height < 2 ^ 31) :
    ofRaster (.filled .rgba width height p.channel) clusters edge =
        .ok ⟨if (width : ℤ) ≤ edge ∧ (height : ℤ) ≤ edge then p.color else p.faded.color, none⟩ ∨
      ofRaster (.filled .rgba width height p.channel) clusters edge = .error .outOfRoom ∧
        ¬((width : ℤ) ≤ edge ∧ (height : ℤ) ≤ edge) ∧
        ¬(width ≤ Span.roomyLength ∧ height ≤ Span.roomyLength) := by
  have flat := Raster.isFlat_filled .rgba width height p.channel
  split_ifs with fits
  case pos =>
    exact .inl (ofRaster_filled positive rfl (flat.isFilled rfl) wide tall fits.1 fits.2)
  case neg =>
    obtain ⟨narrow, low⟩ := ordinary.resolve_left fits
    obtain ⟨w, h, w0, h0, other, sampled | ⟨full, long⟩⟩ :=
      sample_resampled (r := .filled .rgba width height p.channel) rfl wide tall narrow low some_ fits
    · obtain ⟨kind, across, down⟩ := Raster.resampled_kind (.filled .rgba width height p.channel)
        .bilinear (.whole (.filled .rgba width height p.channel)) w h
      exact .inl (ofRaster_of_sample positive sampled
        ((flat.resampled rfl .bilinear _ wide tall other).isFilled kind.mode) (by rwa [across])
        (by rwa [down]))
    · refine .inr ⟨?_, fits, fun short => long ⟨short.1, short.2⟩⟩
      rw [ofRaster, full]
      rfl

/-- The dominant colour of a picture filled with one colour, at any size, alpha, number
of groups and edge.  It is that colour where the picture fits the edge; where it does
not, it is what is left of the colour when it is multiplied by its alpha and divided
again, or there is no room to make the picture smaller, and that only beyond sides of
`2 ^ 24`.  So with room, all colours of an alpha are answered for what they are just when
the picture fits or the alpha is full. -/
theorem uniform_answered (wide : 0 < width) (tall : 0 < height) (positive : 1 ≤ clusters)
    (some_ : 1 ≤ edge) (ordinary : (width : ℤ) ≤ edge ∧ (height : ℤ) ≤ edge ∨
      width < 2 ^ 31 ∧ height < 2 ^ 31) :
    (∀ p : Rgba, ofRaster (.filled .rgba width height p.channel) clusters edge =
        .ok ⟨if (width : ℤ) ≤ edge ∧ (height : ℤ) ≤ edge then p.color else p.faded.color, none⟩ ∨
      ofRaster (.filled .rgba width height p.channel) clusters edge = .error .outOfRoom ∧
        ¬((width : ℤ) ≤ edge ∧ (height : ℤ) ≤ edge) ∧
        ¬(width ≤ Span.roomyLength ∧ height ≤ Span.roomyLength)) ∧
    ((∀ p : Rgba, ofRaster (.filled .rgba width height p.channel) clusters edge ≠
        .error .outOfRoom) →
      ∀ a : UInt8, (∀ p : Rgba, p.alpha = a →
        ofRaster (.filled .rgba width height p.channel) clusters edge = .ok ⟨p.color, none⟩) ↔
          ((width : ℤ) ≤ edge ∧ (height : ℤ) ≤ edge) ∨ a = 255) := by
  have answered (p : Rgba) := ofRaster_uniform p wide tall positive some_ ordinary
  refine ⟨answered, fun room a => ?_⟩
  have answered (p : Rgba) := (answered p).resolve_right fun full => room p full.1
  by_cases fits : (width : ℤ) ≤ edge ∧ (height : ℤ) ≤ edge
  case pos =>
    simp only [answered, if_pos fits, implies_true, true_iff]
    exact .inl fits
  case neg =>
    rw [← Rgba.faded_all_iff, or_iff_right fits]
    simp only [answered, if_neg fits, Except.ok.injEq, Answer.mk.injEq, and_true]

/-- A faint red that is one pixel too wide comes out a little darker. -/
theorem faint_red_darkened :
    ofRaster (.filled .rgba 257 1 (Rgba.channel ⟨116, 20, 30, 128⟩)) defaultClusters
      defaultSample = .ok ⟨⟨115, 19, 29⟩, none⟩ := by
  have answered := (@uniform_answered 257 1 defaultClusters defaultSample (by decide) (by decide)
    (by decide) (by decide) (.inr (by decide))).1 ⟨116, 20, 30, 128⟩
  have faded : (Rgba.mk 116 20 30 128).faded.color = ⟨115, 19, 29⟩ := by decide +kernel
  rw [answered.resolve_right fun full => full.2.2 (by decide), if_neg (by decide), faded]

/-- A hidden colour that is one pixel too wide is lost. -/
theorem hidden_blackened :
    ofRaster (.filled .rgba 257 1 (Rgba.channel ⟨10, 20, 30, 0⟩)) defaultClusters defaultSample =
      .ok ⟨⟨0, 0, 0⟩, none⟩ ∧ (Rgba.mk 10 20 30 0).color ≠ ⟨0, 0, 0⟩ := by
  refine ⟨?_, by decide⟩
  have answered := @ofRaster_uniform 257 1 defaultClusters defaultSample ⟨10, 20, 30, 0⟩ (by decide)
    (by decide) (by decide) (by decide) (.inr (by decide))
  rw [answered.resolve_right fun full => full.2.2 (by decide), if_neg (by decide),
    Rgba.faded_of_clear rfl]

end Dominant

end Darkroom
