import Mathlib.Data.String.Basic
import ProjectPicker.Editor

/-!
# The names that projects may be saved under

* `ProjectName.Proper` : 1 to 128 characters, each an ASCII letter or digit, `_`, `-` or `.`;
* `octets_eq_length` : each of these characters takes one octet, so that the limit on octets is one
  on characters;
* `isValid_iff` : `ProjectName.isValid` accepts the proper names.
-/

set_option autoImplicit false

namespace ProjectPicker.ProjectName

variable {c : Char} {name : String}

/-- An ASCII letter, an ASCII digit, `_`, `-` or `.`. -/
def Allowed (c : Char) : Prop :=
  ('a' ≤ c ∧ c ≤ 'z') ∨ ('A' ≤ c ∧ c ≤ 'Z') ∨ ('0' ≤ c ∧ c ≤ '9') ∨ c = '_' ∨ c = '-' ∨ c = '.'

/-- 1 to 128 characters, all of them allowed. -/
structure Proper (name : String) : Prop where
  nonempty : 1 ≤ name.length
  short : name.length ≤ 128
  allowed : ∀ c ∈ name.toList, Allowed c

theorem isAllowed_iff : isAllowed c = true ↔ Allowed c := by
  unfold isAllowed Allowed Char.isAlphanum Char.isAlpha Char.isUpper Char.isLower Char.isDigit
  simp only [Bool.or_eq_true, Bool.and_eq_true, decide_eq_true_eq, beq_iff_eq, Char.le_def]
  tauto

theorem utf8Size_allowed (h : Allowed c) : c.utf8Size = 1 := by
  rw [Char.utf8Size_eq_one_iff]
  rcases h with ⟨-, h⟩ | ⟨-, h⟩ | ⟨-, h⟩ | rfl | rfl | rfl
  · exact UInt32.le_trans h (by decide)
  · exact UInt32.le_trans h (by decide)
  · exact UInt32.le_trans h (by decide)
  · decide
  · decide
  · decide

theorem octets_eq_length (h : ∀ c ∈ name.toList, Allowed c) : name.utf8ByteSize = name.length := by
  have counted : ∀ cs : List Char, (∀ c ∈ cs, Allowed c) → String.utf8Len cs = cs.length := by
    intro cs
    induction cs with
    | nil => exact fun _ => rfl
    | cons c rest ih =>
      intro h
      obtain ⟨hc, hr⟩ := List.forall_mem_cons.1 h
      rw [String.utf8Len_cons, ih hr, utf8Size_allowed hc, List.length_cons]
  rw [← String.length_toList, ← counted name.toList h, ← String.utf8ByteSize_ofList,
    String.ofList_toList]

/-- The names that a project may be saved under are the proper ones. -/
theorem isValid_iff : isValid name = true ↔ Proper name := by
  have all_allowed : name.toList.all isAllowed = true ↔ ∀ c ∈ name.toList, Allowed c := by
    simp only [List.all_eq_true, isAllowed_iff]
  have nonempty_iff : (!name.isEmpty) = true ↔ 1 ≤ name.length := by
    rw [Bool.not_eq_true', Bool.eq_false_iff, Ne, String.isEmpty_iff, ← String.toList_eq_nil_iff,
      ← String.length_toList, Nat.one_le_iff_ne_zero, Ne, List.length_eq_zero_iff]
  simp only [isValid, Bool.and_eq_true, decide_eq_true_eq, nonempty_iff, all_allowed]
  constructor
  · rintro ⟨⟨nonempty, short⟩, allowed⟩
    exact ⟨nonempty, octets_eq_length allowed ▸ short, allowed⟩
  · rintro ⟨nonempty, short, allowed⟩
    exact ⟨⟨nonempty, (octets_eq_length allowed).symm ▸ short⟩, allowed⟩

end ProjectPicker.ProjectName
