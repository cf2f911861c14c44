/-
# Darkroom.File.Bmp.Runs -- palette indices packed as runs

Packed indices are pairs of bytes: a count and what is repeated so often, or a
zero and an order.  The orders end a row, end the picture, skip pixels, or say
that so many indices follow as they are.  Indices of four bits share a byte, and
a run of them takes turns between the two.
-/
import Darkroom.File.Bytes

namespace Darkroom.Bmp

set_option autoImplicit false

/-- The two indices of four bits in a byte. -/
def halves (b : UInt8) : List UInt8 := [b / 16, b % 16]

/-- What has been unpacked, where, and how far it has come in its row. -/
structure Unpacking where
  out : Bytes
  position : Nat
  column : Nat

namespace Unpacking

/-- Zeros up to the end of the row. -/
def endRow (u : Unpacking) (width : Nat) : Unpacking :=
  let missing := if u.out.size % width = 0 then 0 else width - u.out.size % width
  ⟨u.out ++ Array.replicate missing 0, u.position, 0⟩

/-- A run of so many indices; what would stick out of the row is left off. -/
def repeated (u : Unpacking) (width : Nat) (four : Bool) (count : Nat) (b : UInt8) : Unpacking :=
  let count := if width < u.column + count then width - u.column else count
  let run := Array.ofFn (n := count) fun i =>
    if four then (if i.val % 2 = 0 then b / 16 else b % 16) else b
  ⟨u.out ++ run, u.position, u.column + count⟩

end Unpacking

/-- Unpack to at least `need` indices, or as many as there are.  Nothing is
answered where an order to skip is cut short; `fuel` is at least the number of
bytes. -/
def unpackRuns (data : Bytes) (width need : Nat) (four : Bool) : Nat → Unpacking → Option Bytes
  | 0, u => some u.out
  | fuel + 1, u =>
      if need ≤ u.out.size || data.size < u.position + 2 then some u.out
      else
        let count := data.at0 u.position
        let value := data.getD (u.position + 1) 0
        let u := { u with position := u.position + 2 }
        if count ≠ 0 then unpackRuns data width need four fuel (u.repeated width four count value)
        else match value.toNat with
          | 0 => unpackRuns data width need four fuel (u.endRow width)
          | 1 => some u.out
          | 2 =>
              if data.size < u.position + 2 then some u.out
              else if data.size < u.position + 4 then none
              else
                let skipped := data.at0 (u.position + 2) + data.at0 (u.position + 3) * width
                let out := u.out ++ Array.replicate skipped 0
                unpackRuns data width need four fuel ⟨out, u.position + 4, out.size % width⟩
          | n =>
              let length := if four then n / 2 else n
              let plain := data.slice u.position length
              let out := u.out ++ if four then plain.flatMap fun b => (halves b).toArray else plain
              if plain.size < length then some out
              else
                let after := u.position + length
                unpackRuns data width need four fuel ⟨out, after + after % 2, u.column + n⟩

end Darkroom.Bmp
