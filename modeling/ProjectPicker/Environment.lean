/-!
# Environments

* `Environment` : the variables of a program, by name;
* `Environment.text?`, `Environment.put` : their values.
-/

set_option autoImplicit false

namespace ProjectPicker

/-- The variables of a program, by name. A value that is no text is `none`. -/
structure Environment where
  entries : List (String × Option String) := []

namespace Environment

def text? (e : Environment) (name : String) : Option String := (e.entries.lookup name).join

def put (e : Environment) (name value : String) : Environment :=
  ⟨(name, some value) :: e.entries.filter (·.1 != name)⟩

theorem text?_put (e : Environment) (name value : String) :
    (e.put name value).text? name = some value := by
  simp [put, text?]

end Environment

end ProjectPicker
