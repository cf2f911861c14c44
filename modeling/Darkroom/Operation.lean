/-
# Darkroom.Operation -- the five things a request can do to a picture
-/

namespace Darkroom

set_option autoImplicit false

inductive Operation
  | resize | thumbnail | fit | rotate | flip
  deriving DecidableEq, Inhabited, Repr

namespace Operation

def all : List Operation := [.resize, .thumbnail, .fit, .rotate, .flip]

def name : Operation → String
  | .resize => "resize"
  | .thumbnail => "thumbnail"
  | .fit => "fit"
  | .rotate => "rotate"
  | .flip => "flip"

def ofName? (name : String) : Option Operation :=
  all.find? fun o => o.name == name

/-- The operation computes new pixels, and so obeys the scaling policy. -/
def isResample : Operation → Bool
  | .resize | .thumbnail | .fit => true
  | .rotate | .flip => false

end Operation

end Darkroom
