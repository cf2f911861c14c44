/-
# Darkroom.Proofs.Reporting -- the report on a colour

Every colour is told: its score exists, and no channel is too light to be bent
(`Brightness.relativeLuminance_found`).  The report ends with a line that names a mark
(`Tells`), and that is the mark that the score of the colour picks (`colorText_found`).
-/
import Darkroom.Command
import Darkroom.Proofs.Choosing

namespace Darkroom

set_option autoImplicit false

open Outcome

namespace Brightness

/-- The share of a channel is so far from all numbers that bending it stays among them. -/
theorem bent_below_blinding (n : Fin 256) :
    (share (.int n.val)).toOption.map
      (fun v => decide (blinding ≤ (v.toFloat + 0.055) / 1.055)) = some false := by
  revert n
  decide +kernel

theorem linearize_found {n : ℕ} (channel : n < 256) : ∃ light, linearize (.int n) = .ok light := by
  have below := bent_below_blinding ⟨n, channel⟩
  rw [linearize]
  cases found : share (.int n) with
  | error fault =>
      rw [found] at below
      cases below
  | ok v =>
      rw [found] at below
      have dim : ¬blinding ≤ (v.toFloat + 0.055) / 1.055 :=
        of_decide_eq_false (Option.some.inj below)
      rw [ok_bind]
      dsimp only
      rw [if_neg dim]
      split <;> exact ⟨_, rfl⟩

theorem relativeLuminance_found (c : Rgb) :
    ∃ light, relativeLuminance (Swatch.ofRgb c).channels = .ok light := by
  obtain ⟨red, r⟩ := linearize_found c.red.toNat_lt
  obtain ⟨green, g⟩ := linearize_found c.green.toNat_lt
  obtain ⟨blue, b⟩ := linearize_found c.blue.toNat_lt
  have number (n : ℕ) : (Value.number (.int n)).toNumber = .ok (.int n) := rfl
  have lights : (Swatch.ofRgb c).channels.mapM (fun v => do linearize (← v.toNumber)) =
      .ok [red, green, blue] := by
    rw [mapM_eq_ok]
    simp only [Swatch.ofRgb, Swatch.channels, List.forall₂_cons, number, ok_bind]
    exact ⟨r, g, b, .nil⟩
  rw [relativeLuminance, lights]
  exact ⟨_, rfl⟩

end Brightness

namespace Command

/-- The line of a report that names a mark. -/
def variantLine (v : Variant) : String := "watermark_variant: " ++ v.name ++ "\n"

/-- What is printed ends with the line that names the mark. -/
def Tells (printed : Printed) (v : Variant) : Prop :=
  ∃ before, printed = .text (before ++ variantLine v)

/-- No two marks are told at once. -/
theorem Tells.unique {printed : Printed} {v w : Variant} (one : Tells printed v)
    (other : Tells printed w) : v = w := by
  obtain ⟨before, rfl⟩ := one
  obtain ⟨before', same⟩ := other
  -- The last two letters are those of the line, and they tell the marks apart.
  have ends (before : String) (v : Variant) : (before ++ variantLine v).toList.reverse.take 2 =
      (variantLine v).toList.reverse.take 2 := by
    rw [String.toList_append, List.reverse_append,
      List.take_append_of_le_length (by cases v <;> decide +kernel)]
  have letters := congrArg (fun text => text.toList.reverse.take 2) (Printed.text.inj same)
  rw [ends, ends] at letters
  revert letters
  cases v <;> cases w <;> decide +kernel

/-- What is reported of a colour, the mark that its score picks last. -/
theorem report_found (c : Rgb) : ∃ score fields, Watermark.colorScore c = .ok score ∧
    (Swatch.ofRgb c).report =
      .ok (fields ++ [("watermark_variant", (Variant.ofScore score).name)]) := by
  obtain ⟨score, scored⟩ := Watermark.colorScore_found c
  obtain ⟨light, lit⟩ := Brightness.relativeLuminance_found c
  have said : Brightness.markScore (Swatch.ofRgb c).channels = .ok score := scored
  have hex (n : ℕ) : Swatch.channelHex (.number (.int n)) = .ok (Text.hexDigits 2 n) := rfl
  have written : (Swatch.ofRgb c).hexChars = .ok c.hexChars := by
    simp only [Swatch.hexChars, Swatch.ofRgb, hex, ok_bind, pure_eq, Rgb.hexChars]
  refine ⟨score, [("hex", c.hex),
    ("rgb", ", ".intercalate ((Swatch.ofRgb c).channels.map (·.plain))),
    ("relative_luminance", light.fixed 4), ("watermark_score", score.fixed 4)], scored, ?_⟩
  rw [Swatch.report, said, ok_bind, written, ok_bind, lit, ok_bind, pure_eq,
    Swatch.reportedVariant_eq]
  rfl

theorem join_concat (lines : List String) (last : String) :
    String.join (lines ++ [last]) = String.join lines ++ last := by
  rw [String.join_append, String.join_cons, String.join_nil, String.append_empty]

/-- The report on a colour ends with the mark that its score picks. -/
theorem colorText_found (c : Rgb) : ∃ score before, Watermark.colorScore c = .ok score ∧
    colorText c = .ok (before ++ variantLine (.ofScore score)) := by
  obtain ⟨score, fields, scored, reported⟩ := report_found c
  have last : variantLine (.ofScore score) =
      "watermark_variant" ++ ": " ++ (Variant.ofScore score).name ++ "\n" := by
    cases Variant.ofScore score <;> decide +kernel
  refine ⟨score, String.join (fields.map fun f => f.1 ++ ": " ++ f.2 ++ "\n"), scored, ?_⟩
  rw [colorText, reported, ok_bind, pure_eq, List.map_append, last]
  exact congrArg Except.ok (join_concat _ _)

end Command

end Darkroom
