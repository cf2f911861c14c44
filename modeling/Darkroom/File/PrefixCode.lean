/-
# Darkroom.File.PrefixCode -- codes of different lengths

A canonical prefix code is given by the number of its codes of each length and
its symbols in the order of their codes.  Codes of one length are consecutive
numbers, and the first code of a length follows the last of the length before,
with a zero behind it.

Decoding reads one bit at a time and keeps the distance of what it has read to
the first code of that length.
-/

namespace Darkroom

set_option autoImplicit false

/-- What goes wrong when packed data are read. -/
inductive Flaw
  /-- The data end too early. -/
  | cut
  /-- The data make no sense. -/
  | broken
  deriving DecidableEq, Inhabited, Repr

structure PrefixCode where
  /-- The number of codes of the lengths 1, 2 and so on. -/
  counts : List Nat
  /-- The symbols, those of short codes first. -/
  symbols : Array Nat
  deriving Inhabited

namespace PrefixCode

/-- The longest code. -/
def longest : Nat := 16

/-- The code in which symbol `i` has a code of the length at place `i`; symbols
of length zero have none. -/
def ofLengths (lengths : List Nat) : PrefixCode where
  counts := (List.range longest).map fun n => lengths.count (n + 1)
  symbols := ((List.range longest).flatMap fun n =>
    (lengths.zipIdx.filter fun l => l.1 = n + 1).map (·.2)).toArray

/-- How many codes of the longest length are still free; negative when there
are more codes than there is room for. -/
def room (c : PrefixCode) : Int :=
  c.counts.foldl (fun (left : Int) (n : Nat) => 2 * left - (n : Int)) 1

/-- No length has more codes than there is room for. -/
def fits (c : PrefixCode) : Bool :=
  ((c.counts.foldl (fun (state : Int × Bool) (n : Nat) =>
    let left := 2 * state.1 - (n : Int)
    (left, state.2 && 0 ≤ left)) (1, true))).2

/-- Decode with the counts of the lengths still to come.  `code` is what has
been read less the first code of the length, `index` the number of symbols with
shorter codes. -/
def decodeFrom (symbols : Array Nat) (bitAt : Nat → Option Nat) :
    List Nat → (code index position : Nat) → Except Flaw (Nat × Nat)
  | [], _, _, _ => .error .broken
  | count :: rest, code, index, position =>
      match bitAt position with
      | none => .error .cut
      | some bit =>
          let code := 2 * code + bit
          if code < count then .ok (symbols.getD (index + code) 0, position + 1)
          else decodeFrom symbols bitAt rest (code - count) (index + count) (position + 1)

/-- The symbol at a position, and the position behind it. -/
def decode (c : PrefixCode) (bitAt : Nat → Option Nat) (position : Nat) :
    Except Flaw (Nat × Nat) :=
  decodeFrom c.symbols bitAt c.counts 0 0 position

end PrefixCode

end Darkroom
