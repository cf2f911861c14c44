/-
# Darkroom.File.Tiff.Strip -- strips of rows

The rows of a page are stored in strips, each packed for itself: as they are,
deflated, or as runs of bytes.  A packed row may hold differences to the pixel
on the left.
-/
import Darkroom.File.Inflate

namespace Darkroom.Tiff

set_option autoImplicit false

inductive Packing
  | plain
  | deflated
  | runs
  /-- A packing that is known by name only. -/
  | unread
  deriving DecidableEq, Inhabited

namespace Packing

def ofNumber? (n : Nat) : Option Packing :=
  if n = 1 then some .plain
  else if n = 8 || n = 32946 then some .deflated
  else if n = 32773 then some .runs
  else if [2, 3, 4, 5, 6, 7, 32771, 32809, 34676, 34677, 34925, 50000, 50001].contains n then
    some .unread
  else none

end Packing

/-- Unpack runs of bytes: a byte below 128 says how many bytes follow, less one;
one above it how often the next byte is repeated, counted down from 257. -/
def unpackRuns (data : Bytes) (need : Nat) : Nat → Nat → Bytes → Bytes
  | 0, _, out => out
  | fuel + 1, position, out =>
      if need ≤ out.size || data.size ≤ position then out
      else
        let n := data.at0 position
        if n < 128 then
          unpackRuns data need fuel (position + 2 + n) (out ++ data.slice (position + 1) (n + 1))
        else if n = 128 then unpackRuns data need fuel (position + 1) out
        else if position + 1 < data.size then
          unpackRuns data need fuel (position + 2)
            (out ++ Array.replicate (257 - n) (data.getD (position + 1) 0))
        else out

/-- The first `need` bytes of an unpacked strip, when there are so many. -/
def Packing.unpack (p : Packing) (data : Bytes) (need : Nat) : Option Bytes :=
  let out := match p with
    | .plain => data
    | .deflated => match Inflate.wrapped data (need + 1) with
      | (_, .flawed .broken) => #[]
      | (out, _) => out
    | .runs => unpackRuns data need data.size 0 #[]
    | .unread => #[]
  if need ≤ out.size then some (out.extract 0 need) else none

/-- Rows of differences as rows of bytes; `step` is the distance to the pixel on
the left. -/
def summed (data : Bytes) (rowBytes step : Nat) : Bytes :=
  data.foldl (fun (done : Bytes) b =>
    let i := done.size
    done.push (if i % rowBytes < step then b else b + done.getD (i - step) 0)) #[]

end Darkroom.Tiff
