/-
# Darkroom.Text.Blank -- blank characters and trimming

The blank characters are the spaces of the character database together with
the line breaks and the four separators among the control characters.
-/

namespace Darkroom.Text

set_option autoImplicit false

/-- The code points of the blank characters. -/
def blanks : List Nat := [
    0x09, 0x0a, 0x0b, 0x0c, 0x0d, 0x1c, 0x1d, 0x1e, 0x1f, 0x20, 0x85, 0xa0, 0x1680,
    0x2000, 0x2001, 0x2002, 0x2003, 0x2004, 0x2005, 0x2006, 0x2007, 0x2008, 0x2009, 0x200a,
    0x2028, 0x2029, 0x202f, 0x205f, 0x3000]

def isBlank (c : Char) : Bool := blanks.contains c.toNat

/-- Blanks removed from both ends. -/
def strip (cs : List Char) : List Char :=
  ((cs.dropWhile isBlank).reverse.dropWhile isBlank).reverse

end Darkroom.Text
