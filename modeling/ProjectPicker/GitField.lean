import ProjectPicker.Board

/-!
# The Git location field

* `GitField` : the field as shown;
* `GitField.attach`, `GitField.push` : from the board and onto it;
* `GitField.type`, `GitField.clear` : what changes it.
-/

set_option autoImplicit false

namespace ProjectPicker

/-- The Git location field as shown. -/
structure GitField where
  location : String
  deriving DecidableEq, Repr, Inhabited

namespace GitField

def attach (b : Board) : GitField := ⟨b.gitLocation⟩

def push (f : GitField) (b : Board) : Board := { b with gitLocation := f.location }

def type (location : String) (_ : GitField) (b : Board) : GitField × Board :=
  let f : GitField := ⟨location⟩
  (f, f.push b)

/-- A project called `name` was added: the field is emptied if it names that project. -/
def clear (name : String) (f : GitField) (b : Board) : GitField × Board :=
  if Location.refersTo f.location name Location.gitExtension then f.type "" b else (f, b)

end GitField

end ProjectPicker
