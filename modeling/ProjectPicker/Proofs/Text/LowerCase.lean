import Mathlib.Data.List.Forall2
import Mathlib.Tactic.MkIffOfInductiveProp
import ProjectPicker.Text.LowerCase

/-!
# Lower case is final, and blind to the case of ASCII letters

* `caseRuns_land`, `caseRuns_miss` : what a run of letters leads to are characters, and no run goes
  on from there;
* `IsSmall` : the characters that lower case leaves alone. They are all that is left of a text
  (`isSmall_of_mem_lowerCharsFrom`), so that a text is its own lower case exactly if it has no
  others (`lower_eq_self_iff`), and a second lower case makes no difference (`lower_lower`);
* `SameCasing` : characters that lower case does not tell apart, neither by themselves nor around a
  sigma (`lowerCharsFrom_congr`). The two forms of an ASCII letter are such
  (`SameLetter.sameCasing`);
* `Recased` : another spelling of a text, which has the same lower case (`Recased.lower_eq`).
-/

set_option autoImplicit false

namespace ProjectPicker.Text

/-! ## Runs of letters -/

namespace CaseRun

variable {r r' : CaseRun} {n : Nat}

theorem covers_iff : r.covers n = true ↔ r.first ≤ n ∧ n ≤ r.last ∧ (n - r.first) % r.step = 0 := by
  simp [covers, and_assoc]

def target (r : CaseRun) (n : Nat) : Nat := (n + r.shift).toNat

def Lands (r : CaseRun) : Prop :=
  0 ≤ r.first + r.shift ∧
    (r.target r.last < 0xD800 ∨ 0xDFFF < r.target r.first ∧ r.target r.last < 0x110000)

instance (r : CaseRun) : Decidable r.Lands :=
  inferInstanceAs (Decidable (0 ≤ r.first + r.shift ∧
    (r.target r.last < 0xD800 ∨ 0xDFFF < r.target r.first ∧ r.target r.last < 0x110000)))

/-- Nothing that `r` leads to is covered by `r'`: it lies before or behind, or it is always the one
letter that `r'` leaves out between two. The numbers are compared by `Nat.blt`, which makes it cheap
to try all pairs of runs. -/
def misses (r r' : CaseRun) : Bool :=
  (r.target r.last).blt r'.first || r'.last.blt (r.target r.first) ||
    ((r.step == 2 || r.first == r.last) && r'.step == 2 && r.target r.first % 2 != r'.first % 2)

theorem misses_iff : r.misses r' = true ↔
    r.target r.last < r'.first ∨ r'.last < r.target r.first ∨
      (r.step = 2 ∨ r.first = r.last) ∧ r'.step = 2 ∧ r.target r.first % 2 ≠ r'.first % 2 := by
  simp [misses, or_assoc, and_assoc]

theorem Lands.isValidChar (lands : r.Lands) (here : r.covers n = true) :
    (r.target n).isValidChar := by
  obtain ⟨low, high, -⟩ := covers_iff.1 here
  unfold Lands target at lands
  unfold target
  obtain ⟨-, before | ⟨after, bounded⟩⟩ := lands
  · exact .inl (by omega)
  · exact .inr ⟨by omega, by omega⟩

theorem Lands.not_covers (lands : r.Lands) (misses : r.misses r' = true)
    (here : r.covers n = true) : r'.covers (r.target n) = false := by
  obtain ⟨low, high, every⟩ := covers_iff.1 here
  have natural : 0 ≤ r.first + r.shift := lands.1
  rw [Bool.eq_false_iff, Ne, covers_iff]
  rintro ⟨low', high', every'⟩
  rw [misses_iff] at misses
  unfold target at misses low' high' every'
  obtain before | behind | ⟨kind, second, odd⟩ := misses
  · omega
  · omega
  · -- Both runs keep to one parity, and where `r` leads has the other one than `r'`.
    rw [second] at every'
    obtain two | single := kind
    · rw [two] at every
      omega
    · omega

/-- `İ`, which becomes two characters, as a run of its own. -/
def dotted : CaseRun := ⟨0x130, 0x130, 1, 0⟩

end CaseRun

theorem caseRuns_land : ∀ r ∈ caseRuns, r.Lands := by
  decide +kernel

theorem caseRuns_miss : ∀ r ∈ caseRuns, (CaseRun.dotted :: caseRuns).all r.misses = true := by
  decide +kernel

/-! ## Characters -/

variable {c d : Char} {cs ds before before' : List Char} {s s' : String}

theorem lowerChar_cases (c : Char) :
    (lowerChar c = c ∧ ∀ r ∈ caseRuns, r.covers c.toNat = false) ∨
      ∃ r ∈ caseRuns, r.covers c.toNat = true ∧ (lowerChar c).toNat = r.target c.toNat := by
  unfold lowerChar
  split
  · next r found =>
    have hr : r ∈ caseRuns := List.mem_of_find?_eq_some found
    have here : r.covers c.toNat = true := by simpa using List.find?_some found
    refine .inr ⟨r, hr, here, ?_⟩
    have valid := (caseRuns_land r hr).isValidChar here
    rw [← CaseRun.target, Char.ofNat, dif_pos valid]
    rfl
  · next missing => exact .inl ⟨rfl, by simpa using List.find?_eq_none.1 missing⟩

theorem lowerChar_eq_self (outside : ∀ r ∈ caseRuns, r.covers c.toNat = false) :
    lowerChar c = c := by
  obtain ⟨same, -⟩ | ⟨r, hr, here, -⟩ := lowerChar_cases c
  · exact same
  · rw [outside r hr] at here
    cases here

/-- A character that lower case leaves alone, whatever is around it. -/
def IsSmall (c : Char) : Prop := lowerChar c = c ∧ c ≠ 'İ'

instance (c : Char) : Decidable (IsSmall c) :=
  inferInstanceAs (Decidable (lowerChar c = c ∧ c ≠ 'İ'))

theorem IsSmall.ne_sigma (small : IsSmall c) : c ≠ 'Σ' := by
  rintro rfl
  exact absurd small (by decide +kernel)

theorem isSmall_lowerChar (not_dotted : c ≠ 'İ') : IsSmall (lowerChar c) := by
  obtain ⟨same, -⟩ | ⟨r, hr, here, moved⟩ := lowerChar_cases c
  · rw [IsSmall, same]
    exact ⟨same, not_dotted⟩
  · have outside : ∀ r' ∈ CaseRun.dotted :: caseRuns, r'.covers (lowerChar c).toNat = false := by
      intro r' hr'
      rw [moved]
      exact (caseRuns_land r hr).not_covers (List.all_eq_true.1 (caseRuns_miss r hr) r' hr') here
    constructor
    · exact lowerChar_eq_self fun r' hr' => outside r' (List.mem_cons_of_mem _ hr')
    · intro dotted
      have never := outside CaseRun.dotted List.mem_cons_self
      rw [dotted] at never
      exact absurd never (by decide)

/-! ## Lower case is final -/

theorem isSmall_of_mem_lowerCharsFrom (h : d ∈ lowerCharsFrom before cs) : IsSmall d := by
  induction cs generalizing before with
  | nil => cases h
  | cons c rest ih =>
    rw [lowerCharsFrom] at h
    -- The new characters come from a sigma, from `İ`, or from any other character.
    split at h
    · obtain rfl | later := List.mem_cons.1 h
      · split
        · decide +kernel
        · decide +kernel
      · exact ih later
    · split at h
      · obtain rfl | h := List.mem_cons.1 h
        · decide +kernel
        · obtain rfl | later := List.mem_cons.1 h
          · decide +kernel
          · exact ih later
      · next not_dotted =>
        obtain rfl | later := List.mem_cons.1 h
        · exact isSmall_lowerChar not_dotted
        · exact ih later

theorem lowerCharsFrom_small (small : ∀ c ∈ cs, IsSmall c) : lowerCharsFrom before cs = cs := by
  induction cs generalizing before with
  | nil => rfl
  | cons c rest ih =>
    obtain ⟨here, later⟩ := List.forall_mem_cons.1 small
    rw [lowerCharsFrom, if_neg here.ne_sigma, if_neg here.2, here.1, ih later]

/-- A text is in lower case exactly if each of its characters is, wherever it stands. -/
theorem lower_eq_self_iff : lower s = s ↔ ∀ c ∈ s.toList, IsSmall c := by
  constructor
  · intro same c hc
    rw [← same, lower, String.toList_ofList] at hc
    exact isSmall_of_mem_lowerCharsFrom hc
  · intro small
    rw [lower, lowerChars, lowerCharsFrom_small small, String.ofList_toList]

/-- Lower case is final. -/
theorem lower_lower (s : String) : lower (lower s) = lower s := by
  rw [lower_eq_self_iff, lower, String.toList_ofList]
  exact fun c hc => isSmall_of_mem_lowerCharsFrom hc

/-- A sigma keeps the form that it has, even where it would take the other one. -/
example : lower "ΟΔΥΣΣΕΥΣ" = "οδυσσευς" ∧ lower "οδυσσευσ ς" = "οδυσσευσ ς" := by
  decide +kernel

/-! ## Other spellings -/

/-- Two characters with one lower case, which are also the same to a sigma next to them. -/
@[mk_iff]
structure SameCasing (c d : Char) : Prop where
  lower : lowerChar c = lowerChar d
  cased : isCased c = isCased d
  ignorable : isCaseIgnorable c = isCaseIgnorable d
  sigma : c = 'Σ' ↔ d = 'Σ'
  dotted : c = 'İ' ↔ d = 'İ'

instance (c d : Char) : Decidable (SameCasing c d) :=
  decidable_of_iff' _ (sameCasing_iff c d)

theorem SameCasing.refl (c : Char) : SameCasing c c := ⟨rfl, rfl, rfl, .rfl, .rfl⟩

theorem SameCasing.symm (h : SameCasing c d) : SameCasing d c :=
  ⟨h.lower.symm, h.cased.symm, h.ignorable.symm, h.sigma.symm, h.dotted.symm⟩

theorem meetsCased_cons (c : Char) (cs : List Char) :
    meetsCased (c :: cs) = if isCaseIgnorable c then meetsCased cs else isCased c := by
  by_cases ignorable : isCaseIgnorable c = true
  · rw [meetsCased, List.dropWhile_cons_of_pos ignorable, if_pos ignorable, meetsCased]
  · rw [meetsCased, List.dropWhile_cons_of_neg ignorable, if_neg ignorable]

theorem meetsCased_congr (h : List.Forall₂ SameCasing cs ds) : meetsCased cs = meetsCased ds := by
  induction h with
  | nil => rfl
  | cons same _ ih => rw [meetsCased_cons, meetsCased_cons, same.ignorable, same.cased, ih]

theorem lowerCharsFrom_congr (passed : List.Forall₂ SameCasing before before')
    (h : List.Forall₂ SameCasing cs ds) : lowerCharsFrom before cs = lowerCharsFrom before' ds := by
  induction h generalizing before before' with
  | nil => rfl
  | cons same later ih =>
    -- A sigma looks both ways: at what has been passed, and at what is still to come.
    rw [lowerCharsFrom, lowerCharsFrom, ih (.cons same passed), endsWord, endsWord,
      meetsCased_congr passed, meetsCased_congr later, same.lower]
    simp only [same.sigma, same.dotted]

/-- The two forms of the ASCII letters. -/
theorem asciiLetters : ∀ n < 26,
    (Char.ofNat (n + 65)).toLower = Char.ofNat (n + 97) ∧
      (Char.ofNat (n + 97)).toUpper = Char.ofNat (n + 65) ∧
      SameCasing (Char.ofNat (n + 65)) (Char.ofNat (n + 97)) := by
  decide +kernel

theorem exists_ofNat {first : Nat} (low : first ≤ c.toNat) (high : c.toNat < first + 26) :
    ∃ n < 26, c = Char.ofNat (n + first) := by
  refine ⟨c.toNat - first, by omega, ?_⟩
  rw [Nat.sub_add_cancel low, Char.ofNat_toNat]

theorem sameCasing_toLower (c : Char) : SameCasing c c.toLower := by
  by_cases upper : 65 ≤ c.toNat ∧ c.toNat < 65 + 26
  · obtain ⟨n, hn, rfl⟩ := exists_ofNat upper.1 upper.2
    obtain ⟨lowered, -, same⟩ := asciiLetters n hn
    rwa [lowered]
  · have kept : c.toLower = c := dif_neg fun h => upper ⟨h.1, Nat.lt_succ_of_le h.2⟩
    rw [kept]
    exact .refl c

theorem sameCasing_toUpper (c : Char) : SameCasing c c.toUpper := by
  by_cases small : 97 ≤ c.toNat ∧ c.toNat < 97 + 26
  · obtain ⟨n, hn, rfl⟩ := exists_ofNat small.1 small.2
    obtain ⟨-, raised, same⟩ := asciiLetters n hn
    rw [raised]
    exact same.symm
  · have kept : c.toUpper = c := dif_neg fun h => small ⟨h.1, Nat.lt_succ_of_le h.2⟩
    rw [kept]
    exact .refl c

/-- The same character, but for the case of an ASCII letter. -/
def SameLetter (c d : Char) : Prop := d = c ∨ d = c.toLower ∨ d = c.toUpper

instance (c d : Char) : Decidable (SameLetter c d) :=
  inferInstanceAs (Decidable (d = c ∨ d = c.toLower ∨ d = c.toUpper))

theorem SameLetter.sameCasing (h : SameLetter c d) : SameCasing c d := by
  obtain rfl | rfl | rfl := h
  · exact .refl d
  · exact sameCasing_toLower c
  · exact sameCasing_toUpper c

/-- Another spelling of a text: its lower case, or the same text but for the case of any of its
ASCII letters. -/
inductive Recased (s : String) : String → Prop
  | lowered : Recased s (lower s)
  | letters {s' : String} (h : List.Forall₂ SameLetter s.toList s'.toList) : Recased s s'

theorem Recased.refl (s : String) : Recased s s :=
  .letters (List.forall₂_same.2 fun _ _ => .inl rfl)

/-- All spellings of a text have one lower case. -/
theorem Recased.lower_eq (h : Recased s s') : lower s' = lower s := by
  cases h with
  | lowered => exact lower_lower s
  | letters h =>
    have same := lowerCharsFrom_congr .nil (h.imp fun _ _ => SameLetter.sameCasing)
    rw [lower, lower, lowerChars, lowerChars, same]

end ProjectPicker.Text
