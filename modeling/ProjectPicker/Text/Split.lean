/-!
# Splitting

* `splitOn` : the parts of a list between separators.
-/

set_option autoImplicit false

namespace ProjectPicker.Text

/-- The parts of a list between separators; there is always one part more than separators. -/
def splitOn {α : Type} [BEq α] (separator : α) : List α → List (List α)
  | [] => [[]]
  | c :: rest =>
    match splitOn separator rest with
    | [] => [[c]]
    | part :: parts => if c == separator then [] :: part :: parts else (c :: part) :: parts

end ProjectPicker.Text
