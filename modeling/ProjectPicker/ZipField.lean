import ProjectPicker.Board

/-!
# The Zip fields

* `ZipField` : the location and the flag as shown;
* `ZipField.attach`, `ZipField.push` : from the board and onto it;
* `ZipField.type`, `ZipField.tick`, `ZipField.clear` : what changes them.
-/

set_option autoImplicit false

namespace ProjectPicker

/-- The Zip location, and whether the root folder of the archive is left out, as shown. -/
structure ZipField where
  location : String
  skip : Bool
  deriving DecidableEq, Repr, Inhabited

namespace ZipField

def attach (b : Board) : ZipField := ⟨b.zipLocation, b.zipSkip⟩

def push (f : ZipField) (b : Board) : Board :=
  { b with zipLocation := f.location, zipSkip := f.skip }

def type (location : String) (f : ZipField) (b : Board) : ZipField × Board :=
  let f := { f with location }
  (f, f.push b)

def tick (skip : Bool) (f : ZipField) (b : Board) : ZipField × Board :=
  let f := { f with skip }
  (f, f.push b)

/-- A project called `name` was added: the fields are reset if they name that project. -/
def clear (name : String) (f : ZipField) (b : Board) : ZipField × Board :=
  if Location.refersTo f.location name Location.zipExtension then
    let f : ZipField := ⟨"", false⟩
    (f, f.push b)
  else (f, b)

end ZipField

end ProjectPicker
