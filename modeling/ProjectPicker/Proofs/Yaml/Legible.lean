import ProjectPicker.Proofs.Yaml.Folding
import ProjectPicker.Proofs.Yaml.Values

/-!
# Texts of JSON that YAML leaves as they are

* `Permitted` : the characters that may stand in YAML as JSON writes them;
* `Legible`, `LegibleName` : texts and names of members that are read as they were written;
* `allowed_chars` : the text of a value may stand in YAML if its texts and names may;
* `legible_iff`, `legibleName_iff` : what is legible is permitted, unmarked and not folded, or a
  key.
-/

set_option autoImplicit false

namespace ProjectPicker.Yaml

open Json (Textual every everyItem everyMember textChars chars itemChars memberChars escapeChar
  quoteChars hexDigit)
open TokenStream (isKey maxKeyLength newline_compact afterColon_compact)

/-- Neither the delete character nor a control after it, and none of the two that are no
characters. -/
def Permitted (c : Char) : Prop :=
  ¬ (0x7F ≤ c.toNat ∧ c.toNat ≤ 0x9F) ∧ c.toNat ≠ 0xFFFE ∧ c.toNat ≠ 0xFFFF

instance : DecidablePred Permitted := fun _ => inferInstanceAs (Decidable (¬ _ ∧ _ ∧ _))

/-- A text that is read as it was written. -/
structure Legible (s : String) : Prop where
  permitted : ∀ c ∈ s.toList, Permitted c
  apart : s.toList.IsChain Apart
  /-- No line in it looks like one that stands between documents. -/
  unmarked : ∀ b x e, IsSeparator b → x = '-' ∨ x = '.' → e = ' ' ∨ IsSeparator e →
    ¬ [b, x, x, x, e] <:+: s.toList

/-- A name of a member that is read as it was written. -/
structure LegibleName (s : String) : Prop where
  permitted : ∀ c ∈ s.toList, Permitted c
  unbroken : ∀ c ∈ s.toList, ¬ IsSeparator c
  short : (Json.str s).compact.length ≤ maxKeyLength

/-- Whether the characters that a text is written with may stand in YAML. -/
def isPermitted (cs : List Char) : Bool := (quoteChars cs).all isAllowed

/-! ## Characters -/

theorem not_permitted_nextLine : ¬ Permitted '\u0085' := by decide

theorem toNat_eq_iff {c d : Char} : c.toNat = d.toNat ↔ c = d :=
  ⟨fun h => Char.ext (UInt32.toNat_inj.1 h), fun h => h ▸ rfl⟩

theorem isAllowed_hexDigit {n : Nat} (h : n < 16) : isAllowed (hexDigit n) = true := by
  have all : ∀ n < 16, isAllowed (hexDigit n) = true := by decide
  exact all n h

theorem isAllowed_iff {c : Char} (printed : 0x20 ≤ c.toNat) :
    isAllowed c = true ↔ Permitted c ∨ c = '\u0085' := by
  have scalar : c.toNat < 0xD800 ∨ 0xDFFF < c.toNat ∧ c.toNat < 0x110000 := c.valid
  rw [← toNat_eq_iff, show ('\u0085' : Char).toNat = 0x85 from rfl]
  simp only [isAllowed, Permitted, Bool.or_eq_true, Bool.and_eq_true, beq_iff_eq, decide_eq_true_eq]
  omega

theorem allowed_escapeChar {c : Char} :
    (escapeChar c).all isAllowed = true ↔ Permitted c ∨ c = '\u0085' := by
  unfold escapeChar
  split_ifs with quote backslash b f n r t control
  iterate 7
    · subst c
      decide
  · have high := isAllowed_hexDigit (show c.toNat / 16 < 16 by omega)
    have low := isAllowed_hexDigit (show c.toNat % 16 < 16 by omega)
    have start : ['\\', 'u', '0'].all isAllowed = true := by decide
    have permitted : Permitted c := by
      unfold Permitted
      omega
    simp_all
  · rw [← isAllowed_iff (Nat.le_of_not_lt control)]
    simp

theorem isPermitted_iff {cs : List Char} :
    isPermitted cs = true ↔ ∀ c ∈ cs, Permitted c ∨ c = '\u0085' := by
  have quote : isAllowed '\x22' = true := by decide
  simp only [isPermitted, quoteChars, List.cons_append, List.all_cons, List.all_append,
    List.all_flatMap, quote, List.all_nil, Bool.and_true, Bool.true_and, List.all_eq_true (l := cs),
    allowed_escapeChar]

theorem allowed_marks : ['[', ']', ',', ':', '\x7b', '\x7d'].all isAllowed = true := by decide

theorem allowed_itemChars (k : Nat) {items : List Json} (each : ∀ j ∈ items, ∀ k,
    (chars .compact k j).all isAllowed = every isPermitted isPermitted j) :
    (itemChars .compact k items).all isAllowed = everyItem isPermitted isPermitted items := by
  have marks := allowed_marks
  simp only [List.all_cons, Bool.and_eq_true] at marks
  induction items with
  | nil => rfl
  | cons j items ih =>
    obtain ⟨here, later⟩ := List.forall_mem_cons.1 each
    simp [itemChars, everyItem, newline_compact, marks, here, ih later]

theorem allowed_memberChars (k : Nat) {members : List (String × Json)} (each : ∀ m ∈ members, ∀ k,
    (chars .compact k m.2).all isAllowed = every isPermitted isPermitted m.2) :
    (memberChars .compact k (members.map fun m => (.str m.1, m.2))).all isAllowed =
      everyMember isPermitted isPermitted (members.map fun m => (.str m.1, m.2)) := by
  have marks := allowed_marks
  simp only [List.all_cons, Bool.and_eq_true] at marks
  induction members with
  | nil => rfl
  | cons m members ih =>
    obtain ⟨here, later⟩ := List.forall_mem_cons.1 each
    have name : (chars .compact k (.str m.1)).all isAllowed =
      isPermitted (textChars (.str m.1)) := rfl
    simp [memberChars, everyMember, newline_compact, afterColon_compact, marks, here, name,
      ih later, Bool.and_assoc]

/-- The characters of a value may stand in YAML if those of its texts and names may. -/
theorem allowed_chars {j : Json} (textual : Textual j) (k : Nat) :
    (chars .compact k j).all isAllowed = every isPermitted isPermitted j := by
  have marks := allowed_marks
  simp only [List.all_cons, Bool.and_eq_true] at marks
  induction textual generalizing k with
  | str s => rfl
  | @array items _ ih =>
    cases items with
    | nil => simp [chars, every, everyItem, marks]
    | cons j items =>
      obtain ⟨here, later⟩ := List.forall_mem_cons.1 ih
      simp [chars, every, everyItem, newline_compact, marks, here, allowed_itemChars _ later]
  | @record members _ ih =>
    cases members with
    | nil => simp [Json.record, chars, every, everyMember, marks]
    | cons m members =>
      obtain ⟨here, later⟩ := List.forall_mem_cons.1 ih
      have name : (chars .compact (k + 1) (.str m.1)).all isAllowed =
        isPermitted (textChars (.str m.1)) := rfl
      simp [Json.record, chars, every, everyMember, newline_compact, afterColon_compact, marks,
        here, name, allowed_memberChars _ later, Bool.and_assoc]

/-! ## Marks -/

/-- A text is marked if a line that begins in it looks like one between documents. -/
theorem isMarked_iff {start : Bool} {cs : List Char} :
    isMarked start cs = true ↔ (start && beginsMarker cs) = true ∨
      ∃ before b after, cs = before ++ b :: after ∧ isRawBreak b = true ∧
        beginsMarker after = true := by
  induction cs generalizing start with
  | nil => simp [isMarked, beginsMarker]
  | cons c cs ih =>
    rw [isMarked, Bool.or_eq_true, ih]
    refine or_congr_right ⟨?_, ?_⟩
    · rintro (here | ⟨before, b, after, rfl, raw, marker⟩)
      · obtain ⟨raw, marker⟩ := Bool.and_eq_true_iff.1 here
        exact ⟨[], c, cs, rfl, raw, marker⟩
      · exact ⟨c :: before, b, after, rfl, raw, marker⟩
    · rintro ⟨before, b, after, same, raw, marker⟩
      cases before with
      | nil =>
        obtain ⟨rfl, rfl⟩ := List.cons.inj same
        exact .inl (by simp [raw, marker])
      | cons _ before =>
        obtain ⟨rfl, rfl⟩ := List.cons.inj same
        exact .inr ⟨before, b, after, rfl, raw, marker⟩

theorem isUnmarked_iff {cs : List Char} (no_nextLine : '\u0085' ∉ cs) :
    isUnmarked cs = true ↔ ∀ b x e, IsSeparator b → x = '-' ∨ x = '.' → e = ' ' ∨ IsSeparator e →
      ¬ [b, x, x, x, e] <:+: cs := by
  have unmarked : isUnmarked cs = true ↔ ¬ ∃ before b after, cs = before ++ b :: after ∧
      isRawBreak b = true ∧ beginsMarker after = true := by
    rw [isUnmarked, Bool.not_eq_true', Bool.eq_false_iff, Ne, isMarked_iff]
    simp
  rw [unmarked]
  constructor
  · rintro none b x e separator mark ends ⟨before, after, rfl⟩
    have folding : isFolding e = true := isFolding_iff.2 (ends.imp_right .inr)
    refine none ⟨before, b, x :: x :: x :: e :: after, by simp, isRawBreak_iff.2 (.inr separator),
      beginsMarker_iff.2 ⟨x, e, after, mark, folding, rfl⟩⟩
  · rintro none ⟨before, b, after, rfl, raw, marker⟩
    obtain ⟨x, e, more, mark, folding, rfl⟩ := beginsMarker_iff.1 marker
    simp only [List.mem_append, List.mem_cons, not_or] at no_nextLine
    have separator : IsSeparator b :=
      (isRawBreak_iff.1 raw).resolve_left (Ne.symm no_nextLine.2.1)
    have ends : e = ' ' ∨ IsSeparator e := (isFolding_iff.1 folding).imp_right
      (·.resolve_left (Ne.symm no_nextLine.2.2.2.2.2.1))
    exact none b x e separator mark ends ⟨before, more, by simp⟩

/-! ## Legible texts -/

theorem foldedText_eq_self_iff {s : String} :
    foldedText s = s ↔ '\u0085' ∉ s.toList ∧ s.toList.IsChain Apart := by
  rw [← folded_eq_self_iff, foldedText, ← String.toList_inj, String.toList_ofList]

/-- Without a next line, all characters are allowed if they are permitted. -/
theorem isPermitted_and_iff {cs : List Char} :
    isPermitted cs = true ∧ '\u0085' ∉ cs ↔ ∀ c ∈ cs, Permitted c := by
  rw [isPermitted_iff]
  constructor
  · rintro ⟨allowed, no_nextLine⟩ c member
    exact (allowed c member).resolve_right fun same => no_nextLine (same ▸ member)
  · intro permitted
    exact ⟨fun c member => .inl (permitted c member),
      fun member => not_permitted_nextLine (permitted _ member)⟩

theorem legible_iff {s : String} :
    Legible s ↔ isPermitted s.toList = true ∧ isUnmarked s.toList = true ∧
      foldedText s = s := by
  rw [foldedText_eq_self_iff]
  constructor
  · rintro ⟨permitted, apart, unmarked⟩
    obtain ⟨allowed, no_nextLine⟩ := isPermitted_and_iff.2 permitted
    exact ⟨allowed, (isUnmarked_iff no_nextLine).2 unmarked, no_nextLine, apart⟩
  · rintro ⟨allowed, unmarked, no_nextLine, apart⟩
    exact ⟨isPermitted_and_iff.1 ⟨allowed, no_nextLine⟩, apart,
      (isUnmarked_iff no_nextLine).1 unmarked⟩

theorem breaks_eq_zero_iff {cs : List Char} :
    breaks cs = 0 ↔ '\u0085' ∉ cs ∧ ∀ c ∈ cs, ¬ IsSeparator c := by
  rw [breaks, List.countP_eq_zero]
  simp only [isRawBreak_iff, not_or]
  constructor
  · exact fun h => ⟨fun member => (h _ member).1 rfl, fun c member => (h c member).2⟩
  · rintro ⟨h, h'⟩ c member
    exact ⟨fun same => h (same ▸ member), h' c member⟩

/-- A text on one line is not marked. -/
theorem isUnmarked_of_breaks {cs : List Char} (h : breaks cs = 0) : isUnmarked cs = true := by
  obtain ⟨no_nextLine, no_separator⟩ := breaks_eq_zero_iff.1 h
  refine (isUnmarked_iff no_nextLine).2 fun b x e separator _ _ within => ?_
  exact no_separator b (within.subset List.mem_cons_self) separator

theorem legibleName_iff {s : String} :
    LegibleName s ↔ isPermitted s.toList = true ∧ isUnmarked s.toList = true ∧
      isKey s.toList = true := by
  have length : (Json.str s).compact.length = (quoteChars s.toList).length := by
    rw [Json.compact, String.length_ofList]
    rfl
  rw [isKey, Bool.and_eq_true, beq_iff_eq, decide_eq_true_eq, breaks_eq_zero_iff, ← length]
  constructor
  · rintro ⟨permitted, unbroken, short⟩
    obtain ⟨allowed, no_nextLine⟩ := isPermitted_and_iff.2 permitted
    exact ⟨allowed, isUnmarked_of_breaks (breaks_eq_zero_iff.2 ⟨no_nextLine, unbroken⟩),
      ⟨no_nextLine, unbroken⟩, short⟩
  · rintro ⟨allowed, -, ⟨no_nextLine, unbroken⟩, short⟩
    exact ⟨isPermitted_and_iff.1 ⟨allowed, no_nextLine⟩, unbroken, short⟩

/-- A name of a member is not changed by folding. -/
theorem LegibleName.folded {s : String} (h : LegibleName s) : foldedText s = s := by
  obtain ⟨-, no_nextLine⟩ := isPermitted_and_iff.2 h.permitted
  refine foldedText_eq_self_iff.2 ⟨no_nextLine, List.Pairwise.isChain ?_⟩
  refine List.pairwise_of_forall_mem_list fun a ha b hb => ?_
  exact ⟨fun h' => h.unbroken b hb h'.2, fun h' => h.unbroken a ha h'.1⟩

end ProjectPicker.Yaml
