import ProjectPicker.Decimal
import ProjectPicker.Text.Count

/-!
# Which texts are counts

* `WritesCount` : a text writes a number in decimal digits, with or without a `+` before them;
* `readDigits_eq_ok_iff` : digits are read as far as their value stays below the bound. No value on
  the way exceeds the last one (`le_foldl_digits`), so only that one decides;
* `readCount_eq_ok_iff` : so a text is a count exactly if it writes a number below the bound.
-/

set_option autoImplicit false

namespace ProjectPicker.Text

variable {s : String} {cs : List Char} {n m : Nat}

/-- The text writes the number in decimal digits, with or without a `+` before them. -/
def WritesCount (s : String) (n : Nat) : Prop :=
  ∃ digits : List Char, digits ≠ [] ∧ (∀ c ∈ digits, c.isDigit = true) ∧
    Decimal.digitsValue digits = n ∧ (s.toList = digits ∨ s.toList = '+' :: digits)

theorem le_foldl_digits (n : Nat) (cs : List Char) :
    n ≤ cs.foldl (fun n c => n * 10 + (c.toNat - '0'.toNat)) n := by
  induction cs generalizing n with
  | nil => exact Nat.le_refl n
  | cons c cs ih => exact Nat.le_trans (by omega) (ih (n * 10 + (c.toNat - '0'.toNat)))

theorem readDigits_eq_ok_iff (low : n < countBound) :
    readDigits n cs = .ok m ↔
      (∀ c ∈ cs, c.isDigit = true) ∧
        cs.foldl (fun n c => n * 10 + (c.toNat - '0'.toNat)) n = m ∧ m < countBound := by
  induction cs generalizing n with
  | nil =>
    simp only [readDigits, Except.ok.injEq, List.foldl_nil]
    exact ⟨fun h => ⟨by simp, h, h ▸ low⟩, fun h => h.2.1⟩
  | cons c cs ih =>
    rw [readDigits, List.forall_mem_cons, List.foldl_cons]
    by_cases digit : c.isDigit = true
    · simp only [if_pos digit]
      by_cases next : n * 10 + (c.toNat - '0'.toNat) < countBound
      · rw [if_pos next, ih next]
        simp only [digit, true_and]
      · rw [if_neg next]
        have beyond := le_foldl_digits (n * 10 + (c.toNat - '0'.toNat)) cs
        exact ⟨nofun, fun ⟨_, value, small⟩ => absurd (value ▸ small) (by omega)⟩
    · rw [if_neg digit]
      exact ⟨nofun, fun h => absurd h.1.1 digit⟩

theorem readDigits_zero_eq_ok_iff :
    readDigits 0 cs = .ok m ↔
      (∀ c ∈ cs, c.isDigit = true) ∧ Decimal.digitsValue cs = m ∧ m < countBound :=
  readDigits_eq_ok_iff (by decide)

/-- A text is read as a count exactly if it writes one that is below the bound. -/
theorem readCount_eq_ok_iff : readCount s = .ok n ↔ WritesCount s n ∧ n < countBound := by
  have plus : ∀ {digits : List Char}, (∀ c ∈ digits, c.isDigit = true) →
      ∀ rest, digits ≠ '+' :: rest := by
    rintro _ all rest rfl
    exact absurd (all '+' (by simp)) (by decide)
  unfold readCount WritesCount
  generalize s.toList = cs
  split
  case h_1 =>
    refine ⟨nofun, ?_⟩
    rintro ⟨⟨digits, nonempty, -, -, same | same⟩, -⟩
    · exact absurd same.symm nonempty
    · exact absurd same (by simp)
  case h_2 =>
    refine ⟨nofun, ?_⟩
    rintro ⟨⟨digits, nonempty, all, -, same | same⟩, -⟩
    · exact absurd same.symm (plus all [])
    · exact absurd (List.cons.inj same).2.symm nonempty
  case h_3 digits nonempty =>
    rw [readDigits_zero_eq_ok_iff]
    constructor
    · rintro ⟨all, value, small⟩
      exact ⟨⟨digits, nonempty, all, value, .inr rfl⟩, small⟩
    · rintro ⟨⟨digits', -, all, value, same | same⟩, small⟩
      · exact absurd same.symm (plus all digits)
      · obtain rfl := (List.cons.inj same).2
        exact ⟨all, value, small⟩
  case h_4 nonempty _ unsigned =>
    rw [readDigits_zero_eq_ok_iff]
    constructor
    · rintro ⟨all, value, small⟩
      exact ⟨⟨cs, nonempty, all, value, .inl rfl⟩, small⟩
    · rintro ⟨⟨digits, -, all, value, rfl | same⟩, small⟩
      · exact ⟨all, value, small⟩
      · exact absurd same (unsigned digits)

end ProjectPicker.Text
