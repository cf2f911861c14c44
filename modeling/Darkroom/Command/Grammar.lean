/-
# Darkroom.Command.Grammar -- arguments read by a grammar

A `Grammar` says which switches a program knows, each with its flags, and which
places its other arguments fill.  The arguments are first told apart: a flag, a
plain argument, or the double dash after which everything is plain.  A long
flag may be cut short as long as it stays unique, a flag of one letter may have
its value right behind it, and several such letters may share one dash.

Then places and switches are filled in turn, from left to right.  What nothing
takes is left over, and the caller says what becomes of it.

A double dash is dropped from what a switch or a place takes.  Where that leaves
nothing, behind another double dash or right behind a flag, the name is given but
has no value.
-/
import Darkroom.Value
import Darkroom.Text.Whole

namespace Darkroom.Command

set_option autoImplicit false

/-- How the value of an argument is read. -/
inductive Reading
  | text
  | whole
  | choice (of : List String)

/-- What a switch does. -/
inductive Effect
  | help
  | count
  | turnOn
  | store (r : Reading)

structure Switch where
  name : String
  flags : List String
  effect : Effect
  required : Bool := false

/-- How many arguments a place takes. -/
inductive Arity
  | one
  | optional
  /-- A command and everything after it. -/
  | command (names : List String)

structure Place where
  name : String
  arity : Arity

structure Grammar where
  /-- The name that complaints begin with. -/
  program : String
  switches : List Switch
  places : List Place
  /-- Names of which exactly one has to be given. -/
  rivals : List String := []

/-- What an argument was read as. -/
inductive Setting
  | text (s : String)
  | whole (n : Int)
  | count (n : Nat)
  | on
  | command (name : String) (rest : List String)
  /-- No value; a double dash stood in its place. -/
  | void

/-- Why the reading of arguments ends early. -/
inductive Stop
  /-- Help was asked for. -/
  | help (program : String)
  | misuse (program message : String)

namespace Stop

/-- The last line that a stop writes. -/
def complaint? : Stop → Option String
  | .help _ => none
  | .misuse program message => some (program ++ ": error: " ++ message)

/-- The exit code of a stop. -/
def code : Stop → Nat
  | .help _ => 0
  | .misuse _ _ => 2

/-- The program that stops. -/
def program : Stop → String
  | .help program => program
  | .misuse program _ => program

end Stop

/-! ## Names in complaints -/

def Switch.title (s : Switch) : String := "/".intercalate s.flags

/-- The title of a switch or a place by its name. -/
def Grammar.titleOf (g : Grammar) (name : String) : String :=
  match g.switches.find? (·.name == name) with
  | some s => s.title
  | none => name

def Grammar.stop {α : Type} (g : Grammar) (message : String) : Except Stop α :=
  .error (.misuse g.program message)

/-- A complaint about one argument. -/
def Grammar.blame {α : Type} (g : Grammar) (title message : String) : Except Stop α :=
  g.stop ("argument " ++ title ++ ": " ++ message)

/-! ## Telling arguments apart -/

/-- The text attached to a flag: right behind it, or after an equals sign. -/
structure Attachment where
  text : List Char
  afterEquals : Bool

/-- A flag that was recognised, with the text attached to it. -/
structure Hit where
  switch : Switch
  flag : String
  attached : Option Attachment

inductive Token
  /-- A flag; nothing when no switch has it. -/
  | flag (text : String) (hit : Option Hit)
  | plain (text : String)
  /-- The double dash. -/
  | divider

def doubleDash : String := "--"

def Token.text : Token → String
  | .flag text _ => text
  | .plain text => text
  | .divider => doubleDash

def Token.isFlag : Token → Bool
  | .flag _ _ => true
  | _ => false

/-- All flags, each with its switch, in the order in which they are known. -/
def Grammar.flags (g : Grammar) : List (String × Switch) :=
  g.switches.flatMap fun s => s.flags.map fun flag => (flag, s)

def Grammar.switch? (g : Grammar) (flag : String) : Option Switch :=
  (g.flags.find? (·.1 == flag)).map (·.2)

/-- A text before and after its first equals sign. -/
def cutAtEquals (cs : List Char) : Option (String × Attachment) :=
  match cs.dropWhile (· ≠ '=') with
  | _ :: after => some (String.ofList (cs.takeWhile (· ≠ '=')), ⟨after, true⟩)
  | [] => none

def isBeginning (short long : String) : Bool := short.toList.isPrefixOf long.toList

/-- What an argument that is no known flag may be short for. -/
def Grammar.candidates (g : Grammar) (argument : String) : List Hit :=
  match argument.toList with
  | '-' :: '-' :: _ =>
      let (short, attached) := match cutAtEquals argument.toList with
        | some (short, value) => (short, some value)
        | none => (argument, none)
      (g.flags.filter fun f => isBeginning short f.1).map fun f => ⟨f.2, f.1, attached⟩
  | '-' :: letter :: rest =>
      let short := String.ofList ['-', letter]
      g.flags.filterMap fun f =>
        if f.1 == short then some ⟨f.2, f.1, some ⟨rest, false⟩⟩
        else if isBeginning argument f.1 then some ⟨f.2, f.1, none⟩
        else none
  | _ => []

/-- A minus sign and digits, with a point before or among them or not. -/
def isNegativeNumber (cs : List Char) : Bool :=
  let isDigit := fun c => (Text.decimalDigit? c).isSome
  let cs := if cs.getLast? = some '\n' then cs.dropLast else cs
  match cs with
  | '-' :: cs =>
      let whole := cs.takeWhile isDigit
      match cs.dropWhile isDigit with
      | [] => whole ≠ []
      | '.' :: part => part ≠ [] && part.all isDigit
      | _ => false
  | _ => false

/-- Tell what one argument is. -/
def Grammar.token (g : Grammar) (argument : String) : Except Stop Token :=
  match argument.toList with
  | '-' :: tail =>
      match g.switch? argument with
      | some s => .ok (.flag argument (some ⟨s, argument, none⟩))
      | none =>
          if tail = [] then .ok (.plain argument)
          else
            let named := (cutAtEquals argument.toList).bind fun (flag, value) =>
              (g.switch? flag).map fun s => (⟨s, flag, some value⟩ : Hit)
            match named with
            | some hit => .ok (.flag argument (some hit))
            | none => match g.candidates argument with
              | [hit] => .ok (.flag argument (some hit))
              | [] =>
                  if isNegativeNumber argument.toList || argument.toList.contains ' ' then
                    .ok (.plain argument)
                  else .ok (.flag argument none)
              | hits => g.stop ("ambiguous option: " ++ argument ++ " could match " ++
                  ", ".intercalate (hits.map (·.flag)))
  | _ => .ok (.plain argument)

/-- Tell all arguments apart. -/
def Grammar.tokens (g : Grammar) : List String → Except Stop (List Token)
  | [] => .ok []
  | "--" :: rest => .ok (.divider :: rest.map .plain)
  | argument :: rest => do return (← g.token argument) :: (← g.tokens rest)

/-! ## Filling places and switches -/

/-- What has been read so far. -/
structure Progress where
  settings : List (String × Setting) := []
  /-- The names of what was met, given or not. -/
  met : List String := []
  /-- The names of what was given a value. -/
  given : List String := []
  extras : List String := []
  /-- The places still to be filled. -/
  places : List Place

namespace Progress

def find? (p : Progress) (name : String) : Option Setting :=
  (p.settings.find? (·.1 == name)).map (·.2)

def set (p : Progress) (name : String) (s : Setting) : Progress :=
  { p with settings := (name, s) :: p.settings }

def text? (p : Progress) (name : String) : Option String :=
  match p.find? name with
  | some (.text s) => some s
  | _ => none

def whole? (p : Progress) (name : String) : Option Int :=
  match p.find? name with
  | some (.whole n) => some n
  | _ => none

def count (p : Progress) (name : String) : Nat :=
  match p.find? name with
  | some (.count n) => n
  | _ => 0

def isOn (p : Progress) (name : String) : Bool :=
  match p.find? name with
  | some .on => true
  | _ => false

end Progress

/-- The complaint about a value that is none of the choices. -/
def invalidChoice (given : String) (choices : List String) : String :=
  "invalid choice: " ++ Text.quoted given ++ " (choose from " ++
    ", ".intercalate (choices.map Text.quoted) ++ ")"

/-- Read a value. -/
def Grammar.read (g : Grammar) (title : String) (r : Reading) (given : String) :
    Except Stop Setting :=
  match r with
  | .text => .ok (.text given)
  | .whole => match Text.whole? given with
    | some n => .ok (.whole n)
    | none => g.blame title ("invalid int value: " ++ Text.quoted given)
  | .choice choices =>
      if choices.contains given then .ok (.text given)
      else g.blame title (invalidChoice given choices)

/-- Note that something was given; of rivals only one may be. -/
def Grammar.give (g : Grammar) (name : String) (p : Progress) : Except Stop Progress :=
  let p := { p with met := name :: p.met, given := name :: p.given }
  match if g.rivals.contains name then g.rivals.find? fun r => r != name && p.given.contains r
      else none with
  | some rival => g.blame (g.titleOf name) ("not allowed with argument " ++ g.titleOf rival)
  | none => .ok p

/-- Carry out a switch that takes no value. -/
def Grammar.flip (g : Grammar) (s : Switch) (p : Progress) : Except Stop Progress := do
  let p ← g.give s.name p
  match s.effect with
  | .help => .error (.help g.program)
  | .count => return p.set s.name (.count (p.count s.name + 1))
  | _ => return p.set s.name .on

/-- Carry out a switch with its value. -/
def Grammar.store (g : Grammar) (s : Switch) (r : Reading) (given : String) (p : Progress) :
    Except Stop Progress := do
  let setting ← if given = doubleDash then pure .void else g.read s.title r given
  return (← g.give s.name p).set s.name setting

/-- What a flag asks for: switches with their values, what it holds besides, and
the tokens behind it. -/
structure Unfolding where
  steps : List (Switch × Option String)
  extras : List String
  rest : List Token

/-- The text attached to the letter of a flag. -/
def attachmentOf : List Char → Option Attachment
  | [] => none
  | '=' :: value => some ⟨value, true⟩
  | value => some ⟨value, false⟩

/-- The letter of a flag leaves less than what was attached before. -/
theorem length_attachmentOf (cs : List Char) :
    ((attachmentOf cs).map (·.text.length + 1)).getD 0 ≤ cs.length + 1 := by
  unfold attachmentOf
  split <;> simp

/-- What a flag asks for.  Letters that take no value may be followed by further
letters, up to one that is no flag; a value that is not attached is the next
argument. -/
def Grammar.unfold (g : Grammar) (s : Switch) (flag : String) (attached : Option Attachment)
    (rest : List Token) : Except Stop Unfolding :=
  match attached, s.effect with
  | some value, .store _ => .ok ⟨[(s, some (String.ofList value.text))], [], rest⟩
  | none, .store _ => match rest with
    | .plain value :: rest => .ok ⟨[(s, some value)], [], rest⟩
    | _ => g.blame s.title "expected one argument"
  | none, _ => .ok ⟨[(s, none)], [], rest⟩
  | some ⟨value, afterEquals⟩, _ =>
      let complaint := "ignored explicit argument " ++ Text.quoted (String.ofList value)
      match value with
      | [] => g.blame s.title complaint
      | letter :: more =>
          if afterEquals || isBeginning "--" flag || letter = '-' then g.blame s.title complaint
          else
            let flag := String.ofList ['-', letter]
            match g.switch? flag with
            | none => .ok ⟨[(s, none)], [String.ofList ('-' :: letter :: more)], rest⟩
            | some next => do
                let later ← g.unfold next flag (attachmentOf more) rest
                return { later with steps := (s, none) :: later.steps }
termination_by (attached.map (·.text.length + 1)).getD 0
decreasing_by
  have h := length_attachmentOf more
  simp only [wfParam, Option.map_some, Option.getD_some, List.length_cons]
  omega

/-- Carry out one switch with its value. -/
def Grammar.carryOut (g : Grammar) (p : Progress) (s : Switch) (value : Option String) :
    Except Stop Progress :=
  match s.effect, value with
  | .store r, some given => g.store s r given p
  | _, _ => g.flip s p

/-- The plain arguments that one place takes from the front, and how many
tokens that is; nothing when it cannot be filled. -/
def Place.fill (place : Place) (tokens : List Token) : Option (List String × Nat) :=
  let isDivider := fun
    | Token.divider => true
    | _ => false
  let before := (tokens.takeWhile isDivider).length
  let rest := tokens.drop before
  let dividers := fun (ts : List Token) => (ts.takeWhile isDivider).length
  match place.arity, rest with
  | .command _, .plain _ :: _ => some (tokens.map Token.text, tokens.length)
  | .command _, _ => none
  | _, .plain s :: rest =>
      let around := before + dividers rest
      some (if s = doubleDash ∧ around = 0 then [] else [s], around + 1)
  | .optional, _ => some ([], before)
  | .one, _ => none

/-- Fill as many places as can be filled at once; the number of tokens taken by
each. -/
def fillAll : List Place → List Token → Option (List (Place × List String × Nat))
  | [], _ => some []
  | place :: rest, tokens => do
      let (texts, n) ← place.fill tokens
      return (place, texts, n) :: (← fillAll rest (tokens.drop n))

/-- The longest run of places from the front that can be filled. -/
def fillMost (places : List Place) (tokens : List Token) : List (Place × List String × Nat) :=
  ((List.range (places.length + 1)).reverse.findSome? fun n =>
    fillAll (places.take n) tokens).getD []

/-- Put what a place has taken where it belongs. -/
def Grammar.settle (g : Grammar) (p : Progress) (place : Place) (texts : List String) :
    Except Stop Progress :=
  match place.arity, texts with
  | .command names, name :: rest =>
      if names.contains name then do
        return (← g.give place.name p).set place.name (.command name rest)
      else g.blame place.name (invalidChoice name names)
  | .one, [] => do return (← g.give place.name p).set place.name .void
  | _, text :: _ => do return (← g.give place.name p).set place.name (.text text)
  | _, [] => .ok { p with met := place.name :: p.met }

/-- Fill places from the front of the tokens. -/
def Grammar.fillPlaces (g : Grammar) (p : Progress) (tokens : List Token) :
    Except Stop (Progress × List Token) := do
  let filled := fillMost p.places tokens
  let p ← filled.foldlM (fun p f => g.settle p f.1 f.2.1) p
  return ({ p with places := p.places.drop filled.length },
    tokens.drop ((filled.map (·.2.2)).foldl (· + ·) 0))

/-- Carry out the flag at the front of the tokens. -/
def Grammar.takeFlag (g : Grammar) (p : Progress) (text : String) (hit : Option Hit)
    (rest : List Token) : Except Stop (Progress × List Token) :=
  match hit with
  | none => .ok ({ p with extras := p.extras ++ [text] }, rest)
  | some hit => do
      let asked ← g.unfold hit.switch hit.flag hit.attached rest
      let p := { p with extras := p.extras ++ asked.extras }
      return (← asked.steps.foldlM (fun p step => g.carryOut p step.1 step.2) p, asked.rest)

/-- Go through the tokens; `fuel` is at least twice their number. -/
def Grammar.walk (g : Grammar) : Nat → Progress → List Token → Except Stop Progress
  | 0, p, _ => .ok p
  | fuel + 1, p, tokens =>
      match tokens with
      | .flag text hit :: rest => do
          let (p, rest) ← g.takeFlag p text hit rest
          g.walk fuel p rest
      | tokens => do
          let (filled, rest) ← g.fillPlaces p tokens
          if !tokens.any Token.isFlag then
            return { filled with extras := filled.extras ++ rest.map Token.text }
          else if rest.length < tokens.length then g.walk fuel filled rest
          else
            let skipped := tokens.takeWhile fun t => !t.isFlag
            g.walk fuel { filled with extras := filled.extras ++ skipped.map Token.text }
              (tokens.dropWhile fun t => !t.isFlag)

/-- Complain about what has to be there and is not. -/
def Grammar.complete (g : Grammar) (p : Progress) : Except Stop Progress :=
  let missing := ((g.places.filter fun place => match place.arity with
      | .one => !p.met.contains place.name
      | _ => false).map (·.name)) ++
    (g.switches.filter fun s => s.required && !p.met.contains s.name).map Switch.title
  if missing ≠ [] then
    g.stop ("the following arguments are required: " ++ ", ".intercalate missing)
  else if g.rivals ≠ [] && !g.rivals.any p.given.contains then
    g.stop ("one of the arguments " ++ " ".intercalate (g.rivals.map g.titleOf) ++
      " is required")
  else .ok p

/-- Read arguments. -/
def Grammar.parse (g : Grammar) (arguments : List String) : Except Stop Progress := do
  let tokens ← g.tokens arguments
  g.complete (← g.walk (2 * tokens.length + 2) { places := g.places } tokens)

end Darkroom.Command
