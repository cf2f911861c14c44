/-
# Darkroom.Value -- what a caller may write for an option

Options arrive unchecked: a width may be a text, a degree may be missing.  The
rules that look at an option say which values they take, and the refusals quote
the value that was given.  `Value.shown` is that quotation: numbers and the
three constants as they are, texts in quotes.
-/
import Darkroom.Number
import Darkroom.Number.Decimal
import Darkroom.Text.Printable

namespace Darkroom

set_option autoImplicit false

inductive Value
  | nothing
  | flag (b : Bool)
  | number (n : Number)
  | text (s : String)
  | list (items : List Value)
  | record (fields : List (String × Value))
  deriving Inhabited

/-! ## Quoted text -/

namespace Text

/-- The last `width` hexadecimal digits of `n`. -/
def hexDigits : Nat → Nat → List Char
  | 0, _ => []
  | width + 1, n => hexDigits width (n / 16) ++ [Nat.digitChar (n % 16)]

/-- One character inside quotes. -/
def quotedChar (quote : Char) (c : Char) : List Char :=
  if c = quote ∨ c = '\\' then ['\\', c]
  else if c = '\n' then ['\\', 'n']
  else if c = '\r' then ['\\', 'r']
  else if c = '\t' then ['\\', 't']
  else if isPrintable c then [c]
  else if c.toNat < 0x100 then '\\' :: 'x' :: hexDigits 2 c.toNat
  else if c.toNat < 0x10000 then '\\' :: 'u' :: hexDigits 4 c.toNat
  else '\\' :: 'U' :: hexDigits 8 c.toNat

/-- Text in single quotes, or in double quotes when it holds a single quote and
no double one. -/
def quoted (s : String) : String :=
  let quote := if s.toList.contains '\'' && !s.toList.contains '"' then '"' else '\''
  String.ofList (quote :: s.toList.flatMap (quotedChar quote) ++ [quote])

end Text

/-! ## Numbers and values as text -/

def Number.text : Number → String
  | .int n => toString n
  | .real x => x.shortest

namespace Value

mutual

/-- The value as a refusal quotes it. -/
def shown : Value → String
  | .nothing => "None"
  | .flag b => if b then "True" else "False"
  | .number n => n.text
  | .text s => Text.quoted s
  | .list items => "[" ++ ", ".intercalate (shownItems items) ++ "]"
  | .record fields => "\x7b" ++ ", ".intercalate (shownFields fields) ++ "\x7d"

def shownItems : List Value → List String
  | [] => []
  | v :: rest => shown v :: shownItems rest

def shownFields : List (String × Value) → List String
  | [] => []
  | (name, v) :: rest => (Text.quoted name ++ ": " ++ shown v) :: shownFields rest

end

/-- The value as running text: a text stands without quotes. -/
def plain : Value → String
  | .text s => s
  | v => v.shown

/-- The number a value counts as; the two truth values count as one and zero. -/
def number? : Value → Option Number
  | .flag b => some (.int (if b then 1 else 0))
  | .number n => some n
  | _ => none

/-- Whether a value counts as true where only that matters. -/
def truthy : Value → Bool
  | .nothing => false
  | .flag b => b
  | .number n => !n.same (.int 0)
  | .text s => !s.isEmpty
  | .list items => !items.isEmpty
  | .record fields => !fields.isEmpty

/-- The field of a record. -/
def field? (name : String) : Value → Option Value
  | .record fields => (fields.find? (·.1 == name)).map (·.2)
  | _ => none

end Value

end Darkroom
