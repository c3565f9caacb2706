import ProjectPicker.Yaml.Cursor

/-!
# Moving through a text

* `Cursor.Sized` : the index and what is left make up the size;
* `Cursor.Moved` : from one place to a later one, past these characters and so many lines;
* `Cursor.Onward` : from one place to one that is not before it.
-/

set_option autoImplicit false

namespace ProjectPicker.Yaml.Cursor

/-- The index and what is left make up the size of the text. -/
def Sized (c : Cursor) : Prop := c.size = c.index + c.rest.length

theorem Sized.left_eq {c : Cursor} (h : c.Sized) : c.left = c.rest.length := by
  unfold left
  rw [h]
  omega

/-- From one place to a later one: past so many characters and lines. -/
structure Moved (c : Cursor) (length lines : Nat) (c' : Cursor) : Prop where
  rest : c'.rest = c.rest.drop length
  enough : length ≤ c.rest.length
  size : c'.size = c.size
  index : c'.index = c.index + length
  line : c'.line = c.line + lines

namespace Moved

variable {c c' c'' : Cursor} {m n k l : Nat}

theorem refl (c : Cursor) : c.Moved 0 0 c := ⟨rfl, Nat.zero_le _, rfl, rfl, rfl⟩

theorem trans (h : c.Moved m k c') (h' : c'.Moved n l c'') : c.Moved (m + n) (k + l) c'' where
  rest := by rw [h'.rest, h.rest, List.drop_drop]
  enough := by
    have further := h'.enough
    have enough := h.enough
    rw [h.rest, List.length_drop] at further
    omega
  size := h'.size.trans h.size
  index := by rw [h'.index, h.index, Nat.add_assoc]
  line := by rw [h'.line, h.line, Nat.add_assoc]

theorem sized (h : c.Moved m k c') (sized : c.Sized) : c'.Sized := by
  have enough := h.enough
  unfold Sized at sized ⊢
  rw [h.size, h.index, h.rest, List.length_drop, sized]
  omega

end Moved

section Steps

variable {c : Cursor} {x : Char} {more : List Char}

theorem look_zero (h : c.rest = x :: more) : c.look 0 = some x := by simp [look, h]

theorem look_succ (h : c.rest = x :: more) (n : Nat) : c.look (n + 1) = more[n]? := by
  simp [look, h]

theorem rest_skip (h : c.rest = x :: more) : c.skip.rest = more := by simp [skip, h]

theorem column_skip (h : c.rest = x :: more) : c.skip.column = c.column + 1 := by simp [skip, h]

theorem moved_skip (h : c.rest = x :: more) : c.Moved 1 0 c.skip := by
  constructor <;> simp [skip, h]

end Steps

/-! ## Whatever is passed -/

/-- From one place to one that is not before it. -/
structure Onward (c c' : Cursor) : Prop where
  index : c.index ≤ c'.index
  line : c.line ≤ c'.line

namespace Onward

variable {c c' c'' : Cursor}

theorem refl (c : Cursor) : c.Onward c := ⟨Nat.le_refl _, Nat.le_refl _⟩

theorem trans (h : c.Onward c') (h' : c'.Onward c'') : c.Onward c'' :=
  ⟨Nat.le_trans h.index h'.index, Nat.le_trans h.line h'.line⟩

end Onward

variable (c : Cursor)

theorem onward_skip : c.Onward c.skip := by
  unfold skip
  split
  · exact .refl c
  · exact ⟨Nat.le_add_right _ 1, Nat.le_refl _⟩

theorem onward_skipMany (n : Nat) : c.Onward (c.skipMany n) := by
  induction n generalizing c with
  | zero => exact .refl c
  | succ n ih => exact (onward_skip c).trans (ih c.skip)

theorem onward_skipLine : c.Onward c.skipLine := by
  unfold skipLine
  split
  · exact ⟨Nat.le_add_right _ 2, Nat.le_add_right _ 1⟩
  · split
    · exact ⟨Nat.le_add_right _ 1, Nat.le_add_right _ 1⟩
    · exact .refl c
  · exact .refl c

theorem onward_skipComment : c.Onward c.skipComment := by
  unfold skipComment skipWhile
  split
  · exact onward_skipMany c _
  · exact .refl c

end ProjectPicker.Yaml.Cursor
