/-
# Darkroom.Options -- what a request asks for

`Options` are the fields of one request as the caller gave them.  `validate`
looks at the sides and the quality only; the other fields are looked at by the
step that uses them.  `resolve` fills a side that is zero from the proportions
of the source: a width is derived from the height, or a height from the width,
never one from the other's derived value.
-/
import Darkroom.Format

namespace Darkroom

set_option autoImplicit false

/-- The format field: nothing, a format, or a value still to be read. -/
inductive FormatChoice
  | unset
  | format (f : Format)
  | named (given : Value)
  deriving Inhabited

structure Options where
  width : Value := .number (.int 0)
  height : Value := .number (.int 0)
  upscale : Value := .flag false
  format : FormatChoice := .unset
  quality : Value := .number (.int 95)
  degree : Value := .number (.int 0)
  position : Value := .text ""
  deriving Inhabited

/-- Derive a side from the proportions of a source, a half rounded up and never
below one. -/
def deriveSide (known sourceKnown sourceOther : Number) : Outcome Int :=
  Outcome.ofArithmetic do
    let product ← known.mul sourceOther
    let ratio ← product.div sourceKnown
    let whole ← Number.floor (ratio.add (.ofRat (1 / 2)))
    return max 1 whole

namespace Options

/-- Refuse a negative side and a quality outside 0 to 100. -/
def validate (o : Options) : Outcome Unit := do
  let refusal : Outcome Unit := .error (.rejected (.negativeSides o.width o.height))
  if (← o.width.toNumber).lt (.int 0) then refusal
  if (← o.height.toNumber).lt (.int 0) then refusal
  let quality ← o.quality.toNumber
  if (Number.int 0).le quality && quality.le (.int 100) then return ()
  else .error (.rejected (.qualityRange o.quality))

/-- A value that counts as the number zero. -/
def isZero (v : Value) : Bool :=
  match v.number? with
  | some n => n.same (.int 0)
  | none => false

/-- The sides with a zero one derived from the source; both zero stay zero. -/
def resolvedSides (o : Options) (sourceWidth sourceHeight : Number) : Outcome (Value × Value) := do
  if isZero o.width && !isZero o.height then
    let w ← deriveSide (← o.height.toNumber) sourceHeight sourceWidth
    return (.number (.int w), o.height)
  else if isZero o.height && !isZero o.width then
    let h ← deriveSide (← o.width.toNumber) sourceWidth sourceHeight
    return (o.width, .number (.int h))
  else return (o.width, o.height)

/-- Whether `resolve` has a side to derive. -/
def derives (o : Options) : Bool := isZero o.width != isZero o.height

def resolve (o : Options) (sourceWidth sourceHeight : Number) : Outcome Options := do
  let (w, h) ← o.resolvedSides sourceWidth sourceHeight
  return { o with width := w, height := h }

def withFormat (o : Options) (f : FormatChoice) : Options := { o with format := f }

/-- The output format asked for, if one is. -/
def requestedFormat (o : Options) : Outcome (Option Format) :=
  match o.format with
  | .unset => return none
  | .format f => return some f
  | .named given => do return some (← Format.ofName given)

end Options

end Darkroom
