/-!
# Sets of characters

* `CodePoints` : a set of characters, given by inclusive intervals of code points;
* `CodePoints.contains` : membership.
-/

set_option autoImplicit false

namespace ProjectPicker.Text

/-- A set of characters, given by inclusive intervals of code points. -/
structure CodePoints where
  intervals : List (Nat × Nat)

def CodePoints.contains (s : CodePoints) (c : Char) : Bool :=
  s.intervals.any fun i => i.1 ≤ c.toNat && c.toNat ≤ i.2

theorem CodePoints.contains_iff (s : CodePoints) (c : Char) :
    s.contains c = true ↔ ∃ i ∈ s.intervals, i.1 ≤ c.toNat ∧ c.toNat ≤ i.2 := by
  simp [CodePoints.contains, List.any_eq_true]

end ProjectPicker.Text
