/-
# Darkroom.Log -- what the engine reports while it works

An `Entry` is one report; its level, origin and wording are functions of it.  A
`Logged` value is an outcome together with the entries made on the way to it.
A failure keeps the entries made before it and makes no more.  The entries have
no say in the outcome: `outcome_bind` runs a `Logged` computation on outcomes
alone.
-/
import Darkroom.Color.Rgb
import Darkroom.Format
import Darkroom.Raster.Basic

namespace Darkroom

set_option autoImplicit false

namespace Log

inductive Level
  | debug | info | warning | error | critical
  deriving DecidableEq, Inhabited, Repr

namespace Level

/-- The weight of a level; a log shows the entries of its own weight and above. -/
def weight : Level → Nat
  | .debug => 10
  | .info => 20
  | .warning => 30
  | .error => 40
  | .critical => 50

def name : Level → String
  | .debug => "debug"
  | .info => "info"
  | .warning => "warning"
  | .error => "error"
  | .critical => "critical"

def all : List Level := [.debug, .info, .warning, .error, .critical]

/-- The level of a name in small letters. -/
def ofName? (name : String) : Option Level :=
  all.find? fun l => l.name == name

end Level

inductive Entry
  | decoded (format : Format) (width height : Nat) (mode : Mode)
  /-- A still picture is left as it is: the policy declines its step. -/
  | passedThrough (step : String) (factor : Double)
  | applying (step : String) (width height : Nat) (format : Format)
  /-- A frame is left as it is: the policy declines its step. -/
  | skipped (step : String) (factor : Double)
  /-- An animation is answered with its own file. -/
  | animationPassedThrough (factor : Double)
  | framesTransformed (count : Nat) (step : String) (width height newWidth newHeight : Nat)
  /-- The colours of a picture were grouped. -/
  | dominantColor (color : Rgb) (share total : Nat)
  | variantChosen (variant : String) (dominant : Rgb) (score : Double)
  | marksLoaded (plain colored : String)

namespace Entry

def level : Entry → Level
  | .marksLoaded _ _ => .info
  | _ => .debug

/-- The part of the engine that an entry comes from. -/
def origin : Entry → String
  | .decoded .. => "engine.codec"
  | .passedThrough .. | .applying .. => "engine.engine"
  | .skipped .. => "engine.steps"
  | .animationPassedThrough .. | .framesTransformed .. => "engine.animation"
  | .dominantColor .. => "engine.color"
  | .variantChosen .. | .marksLoaded .. => "engine.watermark"

/-- A size in pixels. -/
def sizeText (width height : Nat) : String := toString width ++ "x" ++ toString height

/-- How the policy declines. -/
def declined (factor : Double) : String := "factor " ++ factor.fixed 4 ++ " without upscale"

def text : Entry → String
  | .decoded format width height mode =>
      "Decoded " ++ format.tag ++ " " ++ sizeText width height ++ " (" ++ mode.name ++ ")"
  | .passedThrough step factor => step ++ " pass-through: " ++ declined factor
  | .applying step width height format =>
      "Applying " ++ step ++ " to " ++ sizeText width height ++ " " ++ format.tag
  | .skipped step factor => "Skipping " ++ step ++ ": " ++ declined factor
  | .animationPassedThrough factor => "Animation pass-through: " ++ declined factor
  | .framesTransformed count step width height newWidth newHeight =>
      "Transformed " ++ toString count ++ " frame(s) with " ++ step ++ ": " ++
        sizeText width height ++ " -> " ++ sizeText newWidth newHeight
  | .dominantColor color share total =>
      "Dominant color " ++ color.hex ++ " (" ++ toString share ++ " of " ++ toString total ++
        " pixels)"
  | .variantChosen variant dominant score =>
      "Watermark variant " ++ variant ++ " (dominant " ++ dominant.hex ++ ", score " ++
        score.fixed 4 ++ ")"
  | .marksLoaded plain colored => "Loaded watermark assets: " ++ plain ++ ", " ++ colored

end Entry

end Log

/-! ## Outcomes with entries -/

structure Logged (α : Type) where
  outcome : Outcome α
  entries : List Log.Entry := []

namespace Logged

variable {α β : Type}

def ok (a : α) : Logged α := ⟨.ok a, []⟩

def fail (f : Fault) : Logged α := ⟨.error f, []⟩

/-- Go on with the result of a computation; a failure ends it. -/
def andThen (x : Logged α) (f : α → Logged β) : Logged β :=
  match x.outcome with
  | .ok a =>
      let y := f a
      ⟨y.outcome, x.entries ++ y.entries⟩
  | .error e => ⟨.error e, x.entries⟩

instance : Monad Logged where
  pure := ok
  bind := andThen

instance : MonadLift (Except Fault) Logged where
  monadLift x := ⟨x, []⟩

/-- Make an entry. -/
def note (e : Log.Entry) : Logged Unit := ⟨.ok (), [e]⟩

@[simp] theorem outcome_pure (a : α) : (pure a : Logged α).outcome = .ok a := rfl

@[simp] theorem outcome_fail (f : Fault) : (fail f : Logged α).outcome = .error f := rfl

@[simp] theorem outcome_note (e : Log.Entry) : (note e).outcome = .ok () := rfl

@[simp] theorem outcome_lift (x : Outcome α) : (liftM x : Logged α).outcome = x := rfl

@[simp] theorem outcome_bind (x : Logged α) (f : α → Logged β) :
    (x >>= f).outcome = x.outcome >>= fun a => (f a).outcome := by
  cases x with
  | mk outcome entries => cases outcome <;> rfl

end Logged

end Darkroom
