/-
# Darkroom.Proofs.Invisible -- hidden colours have no say

Two RGBA pictures look the same when they have the same alpha everywhere and the same
colours where that is not zero (`SameSeen`).  There are two ways for the colours that
are hidden in them to get into the answer, and both are shut.  Looked at as they are,
the pictures have the same visible pixels in the same order (`seenPixels_eq`).  Made
smaller, they are multiplied by their alpha first, and that leaves nothing hidden to
tell them apart (`premultiplied_bare`); what is done from there on is done to equal
bytes.
-/
import Darkroom.Proofs.Frequent

namespace Darkroom

set_option autoImplicit false

/-! ## What stands beside the pixels -/

namespace Raster

variable {r s : Raster}

/-- In RGBA, what stands beside the pixels is not looked at. -/
theorem visibleColors_bare (mode : r.mode = .rgba) :
    Dominant.visibleColors r.bare = Dominant.visibleColors r := by
  have pixel (x y : Nat) : r.bare.pixelAt x y = r.pixelAt x y := by
    rw [pixelAt_of_rgba mode, pixelAt_of_rgba (r := r.bare) mode]
    rfl
  simp only [Dominant.visibleColors, pixel]
  rfl

theorem bare_resampleRows (r : Raster) (f : Filter) (s : Span) (count : Nat) :
    (r.resampleRows f s count).bare = r.bare.resampleRows f s count := by
  by_cases wide : 0 < r.width
  case pos =>
    rw [r.resampleRows_eq f s count wide, r.bare.resampleRows_eq f s count wide]
    rfl
  case neg =>
    rw [resampleRows, dif_neg wide, resampleRows, dif_neg (show ¬0 < r.bare.width from wide)]
    rfl

theorem bare_resampleColumns (r : Raster) (f : Filter) (s : Span) (count : Nat) :
    (r.resampleColumns f s count).bare = r.bare.resampleColumns f s count := by
  by_cases tall : 0 < r.height
  case pos =>
    rw [r.resampleColumns_eq f s count tall, r.bare.resampleColumns_eq f s count tall]
    rfl
  case neg =>
    rw [resampleColumns, dif_neg tall, resampleColumns,
      dif_neg (show ¬0 < r.bare.height from tall)]
    rfl

theorem bare_resampleBytes (r : Raster) (f : Filter) (region : Region) (width height : Nat) :
    (r.resampleBytes f region width height).bare = r.bare.resampleBytes f region width height := by
  have across : r.bare.width = r.width := rfl
  have down : r.bare.height = r.height := rfl
  unfold resampleBytes
  rw [across, down]
  dsimp only
  split_ifs <;> simp only [bare_resampleRows, bare_resampleColumns]

end Raster

/-! ## Pictures that look the same -/

/-- Pixels of one alpha, and unless that is zero of one colour. -/
structure Rgba.SeenAlike (p q : Rgba) : Prop where
  alpha : q.alpha = p.alpha
  color : p.alpha ≠ 0 → q = p

/-- RGBA pictures of one size that differ in colours of alpha zero alone. -/
structure SameSeen (r s : Raster) : Prop where
  mode : r.mode = .rgba
  mode' : s.mode = .rgba
  width : s.width = r.width
  height : s.height = r.height
  pixel : ∀ x y, x < r.width → y < r.height → (r.pixelAt x y).SeenAlike (s.pixelAt x y)

/-- Some pixel can be seen. -/
def Raster.HasVisible (r : Raster) : Prop :=
  ∃ x y, x < r.width ∧ y < r.height ∧ (r.pixelAt x y).alpha ≠ 0

/-- A colour of alpha zero is multiplied away. -/
theorem Rgba.SeenAlike.multiplied {p q : Rgba} (alike : p.SeenAlike q) :
    q.multiplied = p.multiplied := by
  by_cases clear : p.alpha = 0
  case pos =>
    have dark (v : UInt8) : Channel.scaleByte v 0 = 0 := by
      simp [Channel.scaleByte, Channel.scale]
    simp only [Rgba.multiplied, alike.alpha, clear, dark]
  case neg => rw [alike.color clear]

namespace SameSeen

open Raster

variable {r s : Raster}

/-- Multiplied by their alpha the pictures have the same bytes. -/
theorem premultiplied_bare (same : SameSeen r s) :
    (s.premultiplied 3).bare = (r.premultiplied 3).bare := by
  refine ext_bytes (same.mode'.trans same.mode.symm) same.width same.height rfl rfl
    fun x y c (hx : x < s.width) (hy : y < s.height) (hc : c < s.mode.bytes) => ?_
  have inR : x < r.width ∧ y < r.height := ⟨same.width ▸ hx, same.height ▸ hy⟩
  rw [same.mode'] at hc
  change (s.premultiplied 3).byteAt x y c = (r.premultiplied 3).byteAt x y c
  rw [byteAt_premultiplied same.mode' hx hy hc, byteAt_premultiplied same.mode inR.1 inR.2 hc,
    (same.pixel x y inR.1 inR.2).multiplied]

/-- Resampled they have the same bytes again. -/
theorem resampled_bare (same : SameSeen r s) (f : Filter) (region : Region) {width height : Nat}
    (other : r.isWhole region width height = false) :
    (s.resampled f region width height).bare = (r.resampled f region width height).bare := by
  have other' : s.isWhole region width height = false :=
    (isWhole_congr same.width same.height region width height).trans other
  have unmultiplied (r : Raster) : (r.unpremultiplied 3).bare = r.bare.unpremultiplied 3 := rfl
  rw [resampled, resampled, other, other', same.mode, same.mode']
  simp only [Bool.false_eq_true, if_false, alphaChannel?, unmultiplied, bare_resampleBytes,
    same.premultiplied_bare]

end SameSeen

/-! ## The pixels that are looked at -/

namespace Dominant

variable {r s : Raster} {edge : ℤ}

/-- Pixels that look the same leave the same when those that cannot be seen go. -/
theorem filter_visible_eq {ps qs : List Rgba} (alike : List.Forall₂ Rgba.SeenAlike ps qs) :
    qs.filter (·.alpha != 0) = ps.filter (·.alpha != 0) := by
  induction alike with
  | nil => rfl
  | @cons p q ps qs head _ ih =>
      obtain ⟨alpha, color⟩ := head
      by_cases clear : p.alpha = 0
      case pos =>
        rw [List.filter_cons_of_neg (by simp [alpha, clear]), ih,
          List.filter_cons_of_neg (by simp [clear])]
      case neg => rw [color clear, List.filter_cons, List.filter_cons, ih]

theorem pixelRow_alike (same : SameSeen r s) :
    List.Forall₂ Rgba.SeenAlike (pixelRow r).toList (pixelRow s).toList := by
  refine List.forall₂_iff_get.mpr ⟨by simp [pixelRow, same.width, same.height], fun i h _ => ?_⟩
  have inside : i < r.width * r.height := by simpa [pixelRow] using h
  have wide : 0 < r.width := Nat.pos_of_ne_zero fun none_ => by simp [none_] at inside
  have hx := Nat.mod_lt i wide
  have hy := Nat.div_lt_of_lt_mul inside
  simp only [pixelRow, List.get_eq_getElem, Array.getElem_toList, Array.getElem_ofFn, same.width]
  exact same.pixel _ _ hx hy

/-- Where some pixel can be seen, those are looked at. -/
theorem seenPixels_of_hasVisible (shows_ : r.HasVisible) :
    seenPixels r = (pixelRow r).filter (·.alpha != 0) := by
  obtain ⟨x, y, hx, hy, visible⟩ := shows_
  have some_ : r.pixelAt x y ∈ (pixelRow r).filter (·.alpha != 0) :=
    Array.mem_filter.mpr ⟨pixelAt_mem_pixelRow hx hy, by simpa using visible⟩
  refine if_neg fun none_ => ?_
  simp [Array.isEmpty_iff.mp none_] at some_

/-- Pictures that look the same have the same visible pixels, in the same order. -/
theorem seenPixels_eq (same : SameSeen r s) (shows_ : r.HasVisible) :
    seenPixels s = seenPixels r := by
  have shows' : s.HasVisible := by
    obtain ⟨x, y, hx, hy, visible⟩ := shows_
    exact ⟨x, y, same.width ▸ hx, same.height ▸ hy, (same.pixel x y hx hy).alpha ▸ visible⟩
  rw [seenPixels_of_hasVisible shows_, seenPixels_of_hasVisible shows', ← Array.toList_inj,
    Array.toList_filter, Array.toList_filter, filter_visible_eq (pixelRow_alike same)]

theorem visibleColors_eq_of_same (same : SameSeen r s) (shows_ : r.HasVisible) :
    visibleColors s = visibleColors r := by
  rw [visibleColors_eq, visibleColors_eq, seenPixels_eq same shows_]

/-- At another size the same colours are looked at, or the size is refused of both. -/
theorem resized_alike (same : SameSeen r s) (shows_ : r.HasVisible) (f : Filter) (region : Region)
    (w h : ℤ) : visibleColors <$> s.resized f region (.int w) (.int h) =
      visibleColors <$> r.resized f region (.int w) (.int h) := by
  have whole := Raster.isWhole_congr same.width same.height region
  have asIs := visibleColors_eq_of_same same shows_
  have room := Raster.hasRoom_congr (same.mode'.trans same.mode.symm) same.width same.height
  rw [Raster.resized, Raster.resized, room, whole, same.width, same.height]
  split_ifs
  · exact congrArg Except.ok asIs
  · rfl
  · rfl
  · refine congrArg Except.ok ?_
    cases moved : r.isWhole region w.toNat h.toNat with
    | true =>
        rw [Raster.resampled, Raster.resampled, if_pos moved, if_pos ((whole _ _).trans moved)]
        exact asIs
    | false =>
        have kind (r : Raster) := (r.resampled_kind f region w.toNat h.toNat).1.mode
        rw [← Raster.visibleColors_bare ((kind r).trans same.mode),
          ← Raster.visibleColors_bare ((kind s).trans same.mode'), same.resampled_bare f region moved]
  · rfl

/-- The same colours are looked at in a sample of either. -/
theorem sampled_alike (same : SameSeen r s) (shows_ : r.HasVisible) :
    visibleColors <$> sample s edge = visibleColors <$> sample r edge := by
  have converted : r.toRgba = .ok r := if_pos same.mode
  have converted' : s.toRgba = .ok s := if_pos same.mode'
  have whole : Region.whole s = .whole r := by rw [Region.whole, Region.whole, same.width, same.height]
  by_cases fits : (r.width : ℤ) ≤ edge ∧ (r.height : ℤ) ≤ edge
  case pos =>
    rw [sample_of_fits converted fits.1 fits.2,
      sample_of_fits converted' (same.width ▸ fits.1) (same.height ▸ fits.2)]
    exact congrArg Except.ok (visibleColors_eq_of_same same shows_)
  case neg =>
    rw [sample_of_exceeds converted fits,
      sample_of_exceeds converted' (by rwa [same.width, same.height]), same.width, same.height, whole]
    cases sampleSize r.width r.height edge with
    | error fault => rw [Outcome.error_bind, Outcome.error_bind]
    | ok size =>
        obtain ⟨w, h⟩ := size
        exact resized_alike same shows_ .bilinear (.whole r) w h

/-- The dominant colour of a picture is found in what is looked at. -/
theorem ofRaster_eq_map (r : Raster) (clusters edge : ℤ) : ofRaster r clusters edge =
    (visibleColors <$> sample r edge) >>= fun colors => answer colors clusters := by
  rw [ofRaster, map_eq_pure_bind, bind_assoc]
  rfl

end Dominant

/-! ## Hidden colours -/

namespace Watermark

variable {r s : Raster}

/-- Hidden colours have no say: pictures that look the same, at any size, have the same
dominant colour among any number of groups and at any edge, if there is room to find it,
and with it the same score; they get the same mark, and when one of them is stamped so is
the other, with that mark. -/
theorem hidden_colors_unheard (same : SameSeen r s) (shows_ : r.HasVisible) :
    (∀ clusters edge, Dominant.ofRaster s clusters edge = Dominant.ofRaster r clusters edge) ∧
    (∀ clusters edge : ℤ, 1 ≤ clusters → 1 ≤ edge → r.width < 2 ^ 31 → r.height < 2 ^ 31 →
      Outcome.RoomAllows r.IsShort (Dominant.ofRaster r clusters edge) ∧
        ∀ a, Dominant.ofRaster r clusters edge = .ok a →
          ∃ score, Dominant.ofRaster s clusters edge = .ok a ∧ colorScore a.color = .ok score) ∧
    choose s = choose r ∧
    ∀ marks opacity choice p, (compose r marks opacity).outcome = .ok (choice, p) →
      ∃ q, (compose s marks opacity).outcome = .ok (choice, q) := by
  have alike (clusters edge : ℤ) :
      Dominant.ofRaster s clusters edge = Dominant.ofRaster r clusters edge := by
    rw [Dominant.ofRaster_eq_map, Dominant.ofRaster_eq_map, Dominant.sampled_alike same shows_]
  have chosen : choose s = choose r := choose_congr (alike _ _)
  refine ⟨alike, fun clusters edge positive some_ narrow low => ?_, chosen,
    fun marks opacity choice p composed => ?_⟩
  · obtain ⟨x, y, hx, hy, -⟩ := shows_
    refine ⟨Dominant.ofRaster_found positive (Raster.isConvertible_of_plain (.inr same.mode))
      (Nat.zero_lt_of_lt hx) (Nat.zero_lt_of_lt hy) narrow low some_, fun a found => ?_⟩
    obtain ⟨score, scored⟩ := colorScore_found a.color
    exact ⟨score, (alike _ _).trans found, scored⟩
  · obtain ⟨picked, -⟩ := compose_eq_ok.mp composed
    have colours := Raster.isConvertible_of_plain (.inr same.mode')
    obtain ⟨q, laid, -⟩ := stamped_found (marks.get choice.variant) opacity colours
    exact ⟨q, compose_eq_ok.mpr ⟨chosen ▸ picked, laid⟩⟩

/-- A picture of one green pixel and one that cannot be seen. -/
def greenOver (hidden : UInt8) : Raster where
  mode := .rgba
  width := 2
  height := 1
  data := #[0, 200, 0, 255, hidden, hidden, hidden, 0]
  size_data := rfl

/-- What hides beside a green pixel has no say, also when both are made one pixel. -/
theorem greenOver_unheard : ∃ a score, Dominant.ofRaster (greenOver 255) 1 1 = .ok a ∧
    Dominant.ofRaster (greenOver 0) 1 1 = .ok a ∧ colorScore a.color = .ok score ∧
    choose (greenOver 0) = choose (greenOver 255) := by
  have seen : ∀ (x : Fin 2) (y : Fin 1),
      ((greenOver 0).pixelAt x y).alpha = ((greenOver 255).pixelAt x y).alpha ∧
      (((greenOver 255).pixelAt x y).alpha ≠ 0 →
        (greenOver 0).pixelAt x y = (greenOver 255).pixelAt x y) := by
    decide +kernel
  have same : SameSeen (greenOver 255) (greenOver 0) :=
    ⟨rfl, rfl, rfl, rfl, fun x y hx hy =>
      ⟨(seen ⟨x, hx⟩ ⟨y, hy⟩).1, (seen ⟨x, hx⟩ ⟨y, hy⟩).2⟩⟩
  have shows_ : (greenOver 255).HasVisible := ⟨0, 0, by decide, by decide, by decide +kernel⟩
  obtain ⟨-, found, chosen, -⟩ := hidden_colors_unheard same shows_
  obtain ⟨allows, both⟩ := found 1 1 le_rfl le_rfl (by decide) (by decide)
  obtain ⟨a, one⟩ := allows.found ⟨by decide, by decide⟩
  obtain ⟨score, other, scored⟩ := both a one
  exact ⟨a, score, one, other, scored, chosen⟩

end Watermark

end Darkroom
