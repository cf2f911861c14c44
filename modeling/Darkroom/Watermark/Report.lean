/-
# Darkroom.Watermark.Report -- a colour as the choice of a mark sees it

The report compares the score with the threshold by itself.  It names the mark that
is chosen for a picture of that score (`reportedVariant_eq`).
-/
import Darkroom.Color.Swatch
import Darkroom.Watermark

namespace Darkroom.Swatch

set_option autoImplicit false

/-- The name of the mark that a report gives for a score. -/
def reportedVariant (score : Double) : String :=
  if Brightness.markThreshold.lt score then Variant.colored.name else Variant.plain.name

theorem reportedVariant_eq (score : Double) : reportedVariant score = (Variant.ofScore score).name :=
  (apply_ite Variant.name _ _ _).symm

/-- The colour, its luminance and its score to four places, and the mark that
the score picks, each with its name. -/
def report (s : Swatch) : Outcome (List (String × String)) := do
  let score ← Brightness.markScore s.channels
  let hex ← s.hexChars
  let luminance ← Brightness.relativeLuminance s.channels
  return [
    ("hex", String.ofList ('#' :: hex)),
    ("rgb", ", ".intercalate (s.channels.map (·.plain))),
    ("relative_luminance", luminance.fixed 4),
    ("watermark_score", score.fixed 4),
    ("watermark_variant", reportedVariant score)]

end Darkroom.Swatch
