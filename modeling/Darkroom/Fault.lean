/-
# Darkroom.Fault -- why a request is refused

Every refusal is a cause with what it quotes; `Fault.message` is the one place
that words them.  The engine's own refusals come first (the source, the output
format, the step, the colour text, the watermark files), then rejected option
values, then what the picture operations and the arithmetic refuse.
-/
import Darkroom.Value

namespace Darkroom

set_option autoImplicit false

/-- What is wrong with a colour text. -/
inductive HexFlaw
  | notText
  | notHexadecimal
  | tooLarge
  deriving DecidableEq

/-- An option or argument with a value outside its range. -/
inductive Rejection
  | negativeSides (width height : Value)
  | qualityRange (quality : Value)
  | channelRange (name : String) (value : Value)
  | channelCount (count : Nat)
  | noChannels
  | sourceSides (width height : Value)
  | noStep (operation : Value)
  | noFrames
  | timingCount (frames timings : Nat)
  | frameSize (index width height containerWidth containerHeight : Nat)
  | unknownVariant (name : Value)
  | fractionalHex

inductive Fault
  /-- The bytes are none of the formats. -/
  | unidentified
  /-- The picture of a recognised file cannot be read. -/
  | undecodable
  /-- A frame of a recognised file cannot be read. -/
  | undecodableFrame
  /-- The file is recognised under a name that is no source format. -/
  | unsupportedSource (name : String)
  | unsupportedFormat (given : Value)
  | unsupportedDegree (given : Value)
  | unsupportedAxis (given : Value)
  | invalidHex (given : Value) (flaw : HexFlaw)
  | assetMissing (path : String)
  | assetUndecodable (path : String)
  | assetsRequired
  | rejected (r : Rejection)
  /-- A picture with a side below one was asked for. -/
  | emptySize
  /-- The picture's mode has no conversion to the one asked for. -/
  | noConversion
  /-- A path holds a character that no path may hold. -/
  | nullInPath
  /-- Colours were to be grouped into no groups at all. -/
  | noClusters
  /-- The colour of a picture without pixels was asked for. -/
  | noPixels
  /-- An encoder does not take the picture's mode or size. -/
  | refusedPicture
  /-- A number does not fit its field in a file, or its field is cut short. -/
  | unrecordable
  /-- A file ends where a byte is needed. -/
  | missingByte
  /-- The pixels of a file cannot be read. -/
  | unreadable
  /-- A part of a file is none that its kind of file has. -/
  | brokenFile
  /-- A number in a file is none of those that have a meaning. -/
  | unlisted
  /-- A file has a picture with too many pixels. -/
  | oversized
  /-- The tables of a resampling take more room than there is. -/
  | outOfRoom
  /-- What is printed is not taken. -/
  | unprintable
  /-- A quality that no JPEG file can have. -/
  | refusedQuality
  | wrongType
  | arithmetic (e : ArithmeticError)
  | unknownLevel (name : String)

namespace Fault

/-- The kinds of refusal a caller tells apart. -/
inductive Kind
  | decode | format | degree | axis | hex | asset
  | value | type | overflow | division | encoder | library | index | level
  deriving DecidableEq

def kind : Fault → Kind
  | .unidentified | .undecodable | .undecodableFrame | .unsupportedSource _ => .decode
  | .unsupportedFormat _ => .format
  | .unsupportedDegree _ => .degree
  | .unsupportedAxis _ => .axis
  | .invalidHex _ _ => .hex
  | .assetMissing _ | .assetUndecodable _ | .assetsRequired => .asset
  | .rejected _ | .emptySize | .noConversion | .nullInPath | .noPixels | .refusedQuality => .value
  | .refusedPicture | .unreadable | .unprintable => .encoder
  | .noClusters | .unrecordable | .brokenFile | .unlisted | .oversized | .outOfRoom => .library
  | .missingByte => .index
  | .wrongType => .type
  | .arithmetic .overflow => .overflow
  | .arithmetic .divisionByZero => .division
  | .unknownLevel _ => .level

/-- A refusal that the engine words itself. -/
def isEngine (f : Fault) : Bool :=
  match f.kind with
  | .decode | .format | .degree | .axis | .hex | .asset => true
  | _ => false

end Fault

def HexFlaw.message : HexFlaw → String
  | .notText => "expected a string"
  | .notHexadecimal => "not a 24-bit hexadecimal color"
  | .tooLarge => "value exceeds 24 bits"

namespace Rejection

def message : Rejection → String
  | .negativeSides w h => "width and height must be non-negative, got " ++ w.plain ++ "x" ++ h.plain
  | .qualityRange q => "quality must be within [0, 100], got " ++ q.plain
  | .channelRange name v => name ++ " must be within [0, 255], got " ++ v.plain
  | .channelCount n => "Expected 3 channels, got " ++ toString n
  | .noChannels => "Expected at least one channel"
  | .sourceSides w h => "Source dimensions must be positive, got " ++ w.plain ++ "x" ++ h.plain
  | .noStep operation => "No transform step for operation: " ++ operation.shown
  | .noFrames => "An animation needs at least one frame"
  | .timingCount frames timings =>
      "Got " ++ toString frames ++ " frames but " ++ toString timings ++ " timings"
  | .frameSize i w h cw ch =>
      "Frame " ++ toString i ++ " is " ++ toString w ++ "x" ++ toString h ++
        ", container is " ++ toString cw ++ "x" ++ toString ch
  | .unknownVariant name => "Unknown watermark variant: " ++ name.shown
  | .fractionalHex => "Unknown format code 'x' for object of type 'float'"

end Rejection

namespace Fault

def message : Fault → String
  | .unidentified => "Cannot identify image"
  | .undecodable => "Cannot decode image"
  | .undecodableFrame => "Cannot decode animation frame"
  | .unsupportedSource name => "Unsupported source format: " ++ name
  | .unsupportedFormat given => "Unsupported image format: " ++ given.shown
  | .unsupportedDegree given =>
      "Invalid rotate transformation, degree=" ++ given.shown ++ " is not supported"
  | .unsupportedAxis given => "Invalid flip transformation, " ++ given.shown ++ " is not supported"
  | .invalidHex given flaw => "Invalid hex color " ++ given.shown ++ ": " ++ flaw.message
  | .assetMissing path => "Watermark asset not found: " ++ path
  | .assetUndecodable path => "Watermark asset cannot be decoded: " ++ path
  | .assetsRequired => "JPEG output requires watermark assets"
  | .rejected r => r.message
  | .emptySize => "height and width must be > 0"
  | .noConversion => "image has wrong mode"
  | .nullInPath => "embedded null byte"
  | .noClusters => "no clusters"
  | .noPixels => "no pixels"
  | .refusedPicture => "cannot write image"
  | .unrecordable => "number out of range"
  | .missingByte => "index out of range"
  | .unreadable => "image file is truncated"
  | .brokenFile => "broken file"
  | .unlisted => "unknown number"
  | .oversized => "Image size exceeds limit"
  | .outOfRoom => "not enough memory"
  | .unprintable => "cannot print"
  | .refusedQuality => "Invalid quality setting"
  | .wrongType => "wrong type"
  | .arithmetic .overflow => "result too large"
  | .arithmetic .divisionByZero => "division by zero"
  | .unknownLevel name => Text.quoted name

end Fault

/-- The outcome of a request. -/
abbrev Outcome (α : Type) := Except Fault α

/-- An arithmetic failure inside a request. -/
def Outcome.ofArithmetic {α : Type} (x : Except ArithmeticError α) : Outcome α :=
  x.mapError .arithmetic

/-- The number an option holds; any other value has the wrong type. -/
def Value.toNumber (v : Value) : Outcome Number :=
  match v.number? with
  | some n => .ok n
  | none => .error .wrongType

end Darkroom
