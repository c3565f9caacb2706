import Mathlib.Data.List.Chain
import ProjectPicker.Proofs.Yaml.Quoted
import ProjectPicker.Text.Blank

/-!
# Texts of JSON that YAML does not fold

* `IsSeparator` : the breaks that are kept;
* `Apart` : neighbours that are not folded;
* `words_induction` : a text is made of words with gaps and breaks between them;
* `folded_eq_self_iff` : which texts are not changed by folding;
* `blank_folded_iff` : a text is blank if it is when it is folded.
-/

set_option autoImplicit false

namespace ProjectPicker.Yaml

def IsSeparator (c : Char) : Prop := c = '\u2028' ∨ c = '\u2029'

instance : DecidablePred IsSeparator := fun _ => inferInstanceAs (Decidable (_ = _ ∨ _ = _))

/-- Neighbours that are no space beside a separator. -/
def Apart (a b : Char) : Prop := ¬ (a = ' ' ∧ IsSeparator b) ∧ ¬ (IsSeparator a ∧ b = ' ')

/-! ## Characters -/

theorem isRawBreak_iff {c : Char} : isRawBreak c = true ↔ c = '\u0085' ∨ IsSeparator c := by
  simp [isRawBreak, IsSeparator, or_assoc]

theorem isFolding_iff {c : Char} :
    isFolding c = true ↔ c = ' ' ∨ c = '\u0085' ∨ IsSeparator c := by
  rw [isFolding, Bool.or_eq_true, isRawBreak_iff, beq_iff_eq]

/-! ## Gaps and breaks -/

theorem length_keptBreak (x : Char) : (keptBreak x).length = 1 := by
  unfold keptBreak
  split <;> rfl

def kept (run : List Char) : List Char := (run.filter isRawBreak).flatMap keptBreak

theorem kept_cons (x : Char) (run : List Char) :
    kept (x :: run) = if isRawBreak x then keptBreak x ++ kept run else kept run := by
  cases raw : isRawBreak x <;> simp [kept, raw]

theorem length_kept_le (run : List Char) : (kept run).length ≤ run.length := by
  induction run with
  | nil => exact Nat.le_refl _
  | cons x run ih =>
    rw [kept_cons, List.length_cons]
    split
    · rw [List.length_append, length_keptBreak]
      omega
    · omega

theorem kept_eq_self_iff {run : List Char} : kept run = run ↔ ∀ x ∈ run, IsSeparator x := by
  induction run with
  | nil => simp [kept]
  | cons x run ih =>
    rw [List.forall_mem_cons, ← ih, kept_cons]
    split
    · rename_i raw
      by_cases nextLine : x = '\u0085'
      · subst x
        have no_separator : ¬ IsSeparator '\u0085' := by decide
        simp [keptBreak, no_separator]
      · have separator : IsSeparator x := (isRawBreak_iff.1 raw).resolve_left nextLine
        simp [keptBreak, nextLine, separator]
    · rename_i no_break
      refine iff_of_false (fun same => ?_) fun h => no_break (isRawBreak_iff.2 (.inr h.1))
      have := length_kept_le run
      rw [same, List.length_cons] at this
      omega

theorem nextLine_not_mem_kept (run : List Char) : '\u0085' ∉ kept run := by
  have each : ∀ x, '\u0085' ∉ keptBreak x := by
    intro x
    unfold keptBreak
    split
    · decide
    · rename_i other
      exact fun h => other (beq_iff_eq.2 (List.mem_singleton.1 h).symm)
  simp [kept, each]

theorem after_broken {f : Fold} (broken : f.broken = true) (run : List Char) :
    f.after run = { f with more := f.more ++ kept run } := by
  induction run generalizing f with
  | nil => simp [Fold.after, kept]
  | cons x run ih =>
    have step : f.after (x :: run) =
        (if isRawBreak x then f.newline (keptBreak x) else f.gap x).after run := rfl
    rw [step, kept_cons]
    split
    · simp [Fold.newline, broken, ih]
    · simp [Fold.gap, broken, ih]

/-- What a break comes to with the gaps and breaks after it. -/
theorem joined_break {b : Char} (raw : isRawBreak b = true) (gaps run : List Char) :
    (Fold.after { gaps } (b :: run)).joined =
      if b = '\u0085' then if kept run = [] then [' '] else kept run else b :: kept run := by
  have begun : Fold.after { gaps } (b :: run) =
      Fold.after { first := keptBreak b, broken := true } run := by
    simp [Fold.after, raw, Fold.newline]
  have no_newline : b ≠ '\n' := by rintro rfl; exact absurd raw (by decide)
  rw [begun, after_broken rfl]
  by_cases nextLine : b = '\u0085' <;> simp [Fold.joined, keptBreak, nextLine, no_newline]

/-- What begins with a break comes to no more characters than it has, and to itself if it is all
separators. -/
theorem joined_break_le {b : Char} (raw : isRawBreak b = true) (gaps run : List Char) :
    (Fold.after { gaps } (b :: run)).joined.length ≤ (b :: run).length ∧
      ((Fold.after { gaps } (b :: run)).joined = gaps ++ b :: run ↔
        gaps = [] ∧ ∀ x ∈ b :: run, IsSeparator x) := by
  have fewer := length_kept_le run
  rw [joined_break raw, List.forall_mem_cons, List.length_cons]
  by_cases nextLine : b = '\u0085'
  · subst b
    -- A next line never stays: it is dropped before other breaks and is a space alone.
    have lost : '\u0085' ∉ if kept run = [] then [' '] else kept run := by
      split
      · simp
      · exact nextLine_not_mem_kept run
    have no_separator : ¬ IsSeparator '\u0085' := by decide
    refine ⟨?_, iff_of_false (fun same => ?_) fun h => no_separator h.2.1⟩
    · rw [if_pos rfl]
      split
      · exact Nat.le_add_left 1 _
      · omega
    · rw [if_pos rfl] at same
      exact lost (same ▸ List.mem_append_right _ List.mem_cons_self)
  · have separator : IsSeparator b := (isRawBreak_iff.1 raw).resolve_left nextLine
    rw [if_neg nextLine, ← kept_eq_self_iff, List.length_cons]
    refine ⟨by omega, fun same => ?_, ?_⟩
    · have length := congrArg List.length same
      simp only [List.length_cons, List.length_append] at length
      obtain rfl : gaps = [] := List.length_eq_zero_iff.1 (by omega)
      exact ⟨rfl, separator, List.tail_eq_of_cons_eq same⟩
    · rintro ⟨rfl, -, same⟩
      rw [same]
      rfl

/-- Gaps and breaks come to no more characters than they are, and to themselves if they are all
spaces or all separators. -/
theorem joined_after {run : List Char} (folding : ∀ x ∈ run, isFolding x = true)
    (gaps : List Char) :
    (Fold.after { gaps } run).joined.length ≤ gaps.length + run.length ∧
      ((Fold.after { gaps } run).joined = gaps ++ run ↔
        (∀ x ∈ run, x = ' ') ∨ gaps = [] ∧ ∀ x ∈ run, IsSeparator x) := by
  induction run generalizing gaps with
  | nil => simp [Fold.after, Fold.joined]
  | cons x run ih =>
    obtain ⟨here, later⟩ := List.forall_mem_cons.1 folding
    by_cases raw : isRawBreak x = true
    · obtain ⟨length, same⟩ := joined_break_le raw gaps run
      have no_space : x ≠ ' ' := by rintro rfl; exact absurd raw (by decide)
      rw [same]
      exact ⟨by omega, by simp [no_space]⟩
    · obtain rfl : x = ' ' := by simpa [isFolding, raw] using here
      have step : Fold.after { gaps } (' ' :: run) = Fold.after { gaps := gaps ++ [' '] } run := by
        simp [Fold.after, raw, Fold.gap]
      obtain ⟨length, same⟩ := ih later (gaps ++ [' '])
      have no_separator : ¬ IsSeparator ' ' := by decide
      rw [step, List.append_cons gaps ' ' run, same]
      refine ⟨by simpa [Nat.add_assoc, Nat.add_comm 1] using length, ?_⟩
      simp [no_separator]

theorem apart_of_not_folding {a b : Char} (h : isFolding a = false ∨ isFolding b = false) :
    Apart a b := by
  simp only [Bool.eq_false_iff, Ne, isFolding_iff, not_or] at h
  unfold Apart
  tauto

/-- No space stands beside a separator where all are spaces or all are separators. -/
theorem isChain_apart_run {run : List Char} (folding : ∀ x ∈ run, isFolding x = true) :
    '\u0085' ∉ run ∧ run.IsChain Apart ↔ (∀ x ∈ run, x = ' ') ∨ ∀ x ∈ run, IsSeparator x := by
  constructor
  · rintro ⟨no_nextLine, chain⟩
    induction run with
    | nil => simp
    | cons x run ih =>
      obtain ⟨here, later⟩ := List.forall_mem_cons.1 folding
      rw [List.mem_cons, not_or] at no_nextLine
      have first : x = ' ' ∨ IsSeparator x :=
        (isFolding_iff.1 here).imp_right (·.resolve_left (Ne.symm no_nextLine.1))
      cases run with
      | nil => simpa using first
      | cons y run =>
        obtain ⟨apart, chain⟩ := List.isChain_cons_cons.1 chain
        rw [List.forall_mem_cons, List.forall_mem_cons (a := x)]
        refine (ih later no_nextLine.2 chain).imp (fun spaces => ?_) fun separators => ?_
        · refine ⟨first.resolve_right fun separator => apart.2 ⟨separator, spaces y ?_⟩, spaces⟩
          exact List.mem_cons_self
        · refine ⟨first.resolve_left fun space => apart.1 ⟨space, separators y ?_⟩, separators⟩
          exact List.mem_cons_self
  · have no_separator : ¬ IsSeparator ' ' ∧ ¬ IsSeparator '\u0085' := by decide
    rintro (spaces | separators)
    · refine ⟨fun h => absurd (spaces _ h) (by decide), List.Pairwise.isChain ?_⟩
      refine List.pairwise_of_forall_mem_list fun a ha b hb => ?_
      simp [Apart, spaces a ha, spaces b hb, no_separator]
    · refine ⟨fun h => no_separator.2 (separators _ h), List.Pairwise.isChain ?_⟩
      refine List.pairwise_of_forall_mem_list fun a ha b hb => ?_
      have no_space : a ≠ ' ' ∧ b ≠ ' ' := by
        constructor <;> rintro rfl
        · exact no_separator.1 (separators _ ha)
        · exact no_separator.1 (separators _ hb)
      simp [Apart, no_space]

/-- A run of gaps and breaks is kept as it is if no two of them are a space beside a separator. -/
theorem joined_run {run : List Char} (folding : ∀ x ∈ run, isFolding x = true) :
    (Fold.after {} run).joined.length ≤ run.length ∧
      ((Fold.after {} run).joined = run ↔ '\u0085' ∉ run ∧ run.IsChain Apart) := by
  obtain ⟨length, same⟩ := joined_after folding []
  rw [List.nil_append] at same
  exact ⟨by simpa using length, same.trans (by simp [isChain_apart_run folding])⟩

/-! ## Whole texts -/

/-- A text is made of words with gaps and breaks between them. -/
theorem words_induction {motive : List Char → Prop} (nil : motive [])
    (word : ∀ w run tail, (∀ x ∈ w, isFolding x = false) → (∀ x ∈ run, isFolding x = true) →
      (∀ x ∈ tail.head?, isFolding x = false) → motive tail → motive (w ++ (run ++ tail)))
    (cs : List Char) : motive cs := by
  obtain ⟨w, run, tail, rfl, nonfolding, folding, stops, last⟩ := exists_word_run cs
  refine word w run tail nonfolding folding stops ?_
  cases run with
  | nil => rwa [last rfl]
  | cons x run => exact words_induction nil word tail
termination_by cs.length
decreasing_by simp_all; omega

/-- Words have no part in what stands beside what. -/
theorem isChain_apart_words {w run tail : List Char} (word : ∀ x ∈ w, isFolding x = false)
    (stops : ∀ x ∈ tail.head?, isFolding x = false) :
    (w ++ (run ++ tail)).IsChain Apart ↔ run.IsChain Apart ∧ tail.IsChain Apart := by
  have within : w.IsChain Apart := List.Pairwise.isChain <|
    List.pairwise_of_forall_mem_list fun a ha _ _ => apart_of_not_folding (.inl (word a ha))
  rw [List.isChain_append, List.isChain_append]
  refine ⟨fun h => ⟨h.2.1.1, h.2.1.2.1⟩, fun ⟨h, h'⟩ => ⟨within, ⟨h, h', ?_⟩, ?_⟩⟩
  · exact fun _ _ b first => apart_of_not_folding (.inr (stops b first))
  · exact fun a last _ _ => apart_of_not_folding (.inl (word a (List.mem_of_getLast? last)))

theorem length_folded_le (cs : List Char) : (folded cs).length ≤ cs.length := by
  induction cs using words_induction with
  | nil => exact Nat.le_refl _
  | word w run tail word folding stops ih =>
    have := (joined_run folding).1
    rw [folded_word_run word folding stops]
    simp only [List.length_append]
    omega

/-- A text is not changed by folding if it has no next line, and no space beside a separator. -/
theorem folded_eq_self_iff (cs : List Char) :
    folded cs = cs ↔ '\u0085' ∉ cs ∧ cs.IsChain Apart := by
  induction cs using words_induction with
  | nil => simp [folded, foldedFrom, Fold.joined]
  | word w run tail word folding stops ih =>
    obtain ⟨length, same⟩ := joined_run folding
    -- Neither part becomes longer, so the whole stays as it is only if both parts do.
    have parts : (Fold.after {} run).joined ++ folded tail = run ++ tail ↔
        (Fold.after {} run).joined = run ∧ folded tail = tail := by
      constructor
      · intro h
        refine List.append_inj h ?_
        have := congrArg List.length h
        have := length_folded_le tail
        simp only [List.length_append] at *
        omega
      · rintro ⟨h, h'⟩
        rw [h, h']
    have no_nextLine : '\u0085' ∉ w := fun h => absurd (word _ h) (by decide)
    rw [folded_word_run word folding stops, List.append_cancel_left_eq, parts, same, ih,
      isChain_apart_words word stops]
    simp only [List.mem_append, no_nextLine, false_or, not_or]
    exact and_and_and_comm

/-! ## Blanks -/

open Text (isBlank)

theorem isBlank_folding {x : Char} (folding : isFolding x = true) : isBlank x = true := by
  rcases isFolding_cases folding with rfl | rfl | rfl | rfl <;> decide

theorem isBlank_keptBreak {x : Char} (folding : isFolding x = true) :
    ∀ y ∈ keptBreak x, isBlank y = true := by
  have newline : isBlank '\n' = true := by decide
  unfold keptBreak
  split <;> simp [newline, isBlank_folding folding]

namespace Fold

/-- All that the gaps and breaks hold are blanks. -/
structure Blank (f : Fold) : Prop where
  gaps : ∀ x ∈ f.gaps, isBlank x = true
  first : ∀ x ∈ f.first, isBlank x = true
  more : ∀ x ∈ f.more, isBlank x = true

variable {f : Fold}

theorem Blank.joined (blank : f.Blank) : ∀ x ∈ f.joined, isBlank x = true := by
  have space : isBlank ' ' = true := by decide
  unfold Fold.joined
  split_ifs
  · simp [space]
  · exact blank.more
  · exact List.forall_mem_append.2 ⟨blank.first, blank.more⟩
  · exact blank.gaps

theorem Blank.gap (blank : f.Blank) {x : Char} (h : isBlank x = true) : (f.gap x).Blank := by
  unfold Fold.gap
  split
  · exact blank
  · exact ⟨List.forall_mem_append.2 ⟨blank.gaps, by simpa using h⟩, blank.first, blank.more⟩

theorem Blank.newline (blank : f.Blank) {cs : List Char} (h : ∀ x ∈ cs, isBlank x = true) :
    (f.newline cs).Blank := by
  unfold Fold.newline
  split
  · exact ⟨blank.gaps, blank.first, List.forall_mem_append.2 ⟨blank.more, h⟩⟩
  · exact ⟨by simp, h, blank.more⟩

theorem Blank.after (blank : f.Blank) {run : List Char} (folding : ∀ x ∈ run, isFolding x = true) :
    (f.after run).Blank := by
  induction run generalizing f with
  | nil => exact blank
  | cons x run ih =>
    obtain ⟨here, later⟩ := List.forall_mem_cons.1 folding
    refine ih (f := if isRawBreak x then f.newline (keptBreak x) else f.gap x) ?_ later
    split
    · exact blank.newline (isBlank_keptBreak here)
    · exact blank.gap (isBlank_folding here)

end Fold

theorem blank_folded_iff (cs : List Char) :
    (∀ x ∈ folded cs, isBlank x = true) ↔ ∀ x ∈ cs, isBlank x = true := by
  induction cs using words_induction with
  | nil => simp [folded, foldedFrom, Fold.joined]
  | word w run tail word folding stops ih =>
    have joined := (Fold.Blank.after (f := {}) ⟨by simp, by simp, by simp⟩ folding).joined
    rw [folded_word_run word folding stops]
    simp only [List.forall_mem_append, ih]
    exact and_congr_right fun _ => and_congr_left fun _ =>
      iff_of_true joined fun x member => isBlank_folding (folding x member)

end ProjectPicker.Yaml
