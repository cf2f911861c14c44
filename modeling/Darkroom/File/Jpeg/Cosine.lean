/-
# Darkroom.File.Jpeg.Cosine -- the cosine transform in whole numbers

A block of eight by eight samples is turned into 64 coefficients and back, first
along its rows or columns and then across.  The factors are cosines and sums of
them, times 2 to the 13th.  Between the two passes two more bits are kept, and
the coefficients come out eight times as large as the exact transform has them;
the way back takes them at their true size.
-/

namespace Darkroom.Jpeg

set_option autoImplicit false

/-- Eight by eight numbers, row by row. -/
abbrev Block := Array Int

namespace Block

def zero : Block := Array.replicate 64 0

/-- The number in row `y` and column `x`. -/
def entry (b : Block) (x y : Nat) : Int := b.getD (8 * y + x) 0

end Block

namespace Cosine

/-- Half is rounded up when bits are dropped. -/
def dropped (bits : Nat) (n : Int) : Int := (n + Nat.pow 2 (bits - 1)).shiftRight bits

/-- The turned sums of the odd half: what the four odd numbers give together.
Both ways use the same factors. -/
def oddHalf (a b c d : Int) : Int × Int × Int × Int :=
  let all := (a + b + c + d) * 9633
  let ad := (a + d) * -7373
  let bc := (b + c) * -20995
  let ac := (a + c) * -16069 + all
  let bd := (b + d) * -3196 + all
  (a * 2446 + ad + ac, b * 16819 + bc + bd, c * 25172 + bc + ac, d * 12299 + ad + bd)

/-- Eight samples as eight coefficients, with `bits` bits dropped. -/
def forward (bits : Nat) (v : Nat → Int) : Array Int :=
  let sum := fun i => v i + v (7 - i)
  let difference := fun i => v i - v (7 - i)
  let outer := sum 0 + sum 3
  let inner := sum 1 + sum 2
  let outerStep := sum 0 - sum 3
  let innerStep := sum 1 - sum 2
  let both := (innerStep + outerStep) * 4433
  let (o7, o5, o3, o1) := oddHalf (difference 3) (difference 2) (difference 1) (difference 0)
  #[(outer + inner) * 8192, o1, both + outerStep * 6270, o3, (outer - inner) * 8192, o5,
    both - innerStep * 15137, o7].map (dropped bits)

/-- Eight coefficients as eight samples, with `bits` bits dropped. -/
def backward (bits : Nat) (v : Nat → Int) : Array Int :=
  let both := (v 2 + v 6) * 4433
  let low := both - v 6 * 15137
  let high := both + v 2 * 6270
  let sum := (v 0 + v 4) * 8192
  let difference := (v 0 - v 4) * 8192
  let (o0, o1, o2, o3) := oddHalf (v 7) (v 5) (v 3) (v 1)
  #[sum + high + o3, difference + low + o2, difference - low + o1, sum - high + o0,
    sum - high - o0, difference - low - o1, difference + low - o2, sum + high - o3].map
      (dropped bits)

/-- A transform of eight numbers on every row. -/
def onRows (f : (Nat → Int) → Array Int) (b : Block) : Block :=
  (List.range 8).foldl (fun done y => done ++ f fun x => b.entry x y) #[]

/-- A transform of eight numbers on every column. -/
def onColumns (f : (Nat → Int) → Array Int) (b : Block) : Block :=
  let columns := Array.ofFn (n := 8) fun x => f fun y => b.entry x y
  Array.ofFn (n := 64) fun i => (columns.getD (i.val % 8) #[]).getD (i.val / 8) 0

/-- Samples about zero as coefficients, eight times too large. -/
def coefficients (samples : Block) : Block := onColumns (forward 15) (onRows (forward 11) samples)

/-- Coefficients as samples about zero. -/
def samples (coefficients : Block) : Block := onRows (backward 18) (onColumns (backward 11) coefficients)

end Cosine

end Darkroom.Jpeg
