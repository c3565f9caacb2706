import Mathlib.Data.List.TakeWhile
import Mathlib.Tactic.SplitIfs
import ProjectPicker.Proofs.Json.Reading
import ProjectPicker.Proofs.Yaml.Cursor
import ProjectPicker.Yaml.Token.Scalar

/-!
# Texts of JSON as scalars of YAML

* `isFolding` : the characters that stand as they are in a text of JSON and are folded by YAML;
* `folded` : what YAML makes of a text of JSON;
* `isMarked` : whether a line in it looks like one between documents;
* `readQuoted_chars` : a text of JSON is read as its folded form, unless it is marked.
-/

set_option autoImplicit false

namespace ProjectPicker.Yaml

open Json (escapeChar quoteChars hexDigit)

/-- The breaks that JSON does not escape. -/
def isRawBreak (c : Char) : Bool := c == '\u0085' || c == '\u2028' || c == '\u2029'

/-- The characters that JSON does not escape and YAML folds. -/
def isFolding (c : Char) : Bool := c == ' ' || isRawBreak c

def keptBreak (c : Char) : List Char := if c == '\u0085' then ['\n'] else [c]

/-- What YAML makes of a text of JSON, after the gaps and breaks `f`. -/
def foldedFrom (f : Fold) : List Char → List Char
  | [] => f.joined
  | c :: cs =>
    if isRawBreak c then foldedFrom (f.newline (keptBreak c)) cs
    else if c == ' ' then foldedFrom (f.gap c) cs
    else f.joined ++ c :: foldedFrom {} cs

def folded (cs : List Char) : List Char := foldedFrom {} cs

def beginsMarker : List Char → Bool
  | a :: b :: c :: d :: _ => a == b && b == c && (a == '-' || a == '.') && isFolding d
  | _ => false

/-- Whether a line begins with a marker of a document; `start` says whether one begins here. -/
def isMarked (start : Bool) : List Char → Bool
  | [] => false
  | c :: cs => start && beginsMarker (c :: cs) || isMarked (isRawBreak c) cs

/-! ## Characters -/

theorem isFolding_cases {x : Char} (h : isFolding x = true) :
    x = ' ' ∨ x = '\u0085' ∨ x = '\u2028' ∨ x = '\u2029' := by
  simpa [isFolding, isRawBreak, or_assoc] using h

theorem escapeChar_folding {x : Char} (h : isFolding x = true) : escapeChar x = [x] := by
  rcases isFolding_cases h with rfl | rfl | rfl | rfl <;> decide

/-- The other characters begin with one that ends no word. -/
theorem escapeChar_word {x : Char} (h : isFolding x = false) :
    ∃ y ys, escapeChar x = y :: ys ∧ isGap y = false ∧ isBreak y = false := by
  simp only [isFolding, isRawBreak, Bool.or_eq_false_iff, beq_eq_false_iff_ne] at h
  unfold escapeChar
  split_ifs with quote backslash b f n r t control
  iterate 8
    · exact ⟨'\\', _, rfl, by decide, by decide⟩
  · refine ⟨x, [], rfl, ?_, ?_⟩
    · simp [isGap, h.1, t]
    · simp [isBreak, h.2, n, r]

/-! ## Words -/

section Words

variable {c : Cursor} {x e : Char} {more : List Char}

open Cursor (look_zero look_succ rest_skip moved_skip)

theorem readHex_digit {d : Nat} (h : c.rest = x :: more) (value : Text.hexValue? x = some d)
    (digits n : Nat) : readHex (digits + 1) n c = readHex digits (n * 16 + d) c.skip := by
  simp [readHex, look_zero h, value]

theorem readEscape_short {y : Char} (h : c.rest = e :: more) (short : shortEscape? e = some y) :
    readEscape c = some (y, c.skip) := by
  simp [readEscape, look_zero h, short]

theorem readEscape_control {n : Nat} (small : n < 0x20)
    (h : c.rest = 'u' :: '0' :: '0' :: hexDigit (n / 16) :: hexDigit (n % 16) :: more) :
    ∃ c', c.Moved 5 0 c' ∧ readEscape c = some (Char.ofNat n, c') := by
  have h₁ := rest_skip h
  have h₂ := rest_skip h₁
  have h₃ := rest_skip h₂
  have h₄ := rest_skip h₃
  have moved := ((((moved_skip h).trans (moved_skip h₁)).trans (moved_skip h₂)).trans
    (moved_skip h₃)).trans (moved_skip h₄)
  have zero : Text.hexValue? '0' = some 0 := by decide
  have high := Json.hexValue_hexDigit (n / 16) (by omega)
  have low := Json.hexValue_hexDigit (n % 16) (by omega)
  have value : ((0 * 16 + 0) * 16 + 0) * 16 + n / 16 = n / 16 := by omega
  refine ⟨_, moved, ?_⟩
  have hex : readHex 4 0 c.skip = some (n, c.skip.skip.skip.skip.skip) := by
    rw [readHex_digit h₁ zero, readHex_digit h₂ zero, readHex_digit h₃ high, readHex_digit h₄ low,
      readHex]
    congr 2
    omega
  have valid : n.isValidChar := .inl (by omega)
  simp [readEscape, look_zero h, shortEscape?, escapeDigits?, hex, valid]

theorem readQuotedWord_escape {y : Char} {c' : Cursor} (h : c.rest = '\\' :: e :: more)
    (no_break : isBreak e = false) (escape : readEscape c.skip = some (y, c')) (fuel : Nat)
    (out : List Char) :
    readQuotedWord false (fuel + 1) out c = readQuotedWord false fuel (y :: out) c' := by
  have no_end : isGap '\\' = false ∧ isBreak '\\' = false := by decide
  simp [readQuotedWord, look_zero h, look_succ h, no_end, no_break, escape]

theorem readQuotedWord_char (word : isFolding x = false) (h : c.rest = escapeChar x ++ more)
    (fuel : Nat) (out : List Char) :
    ∃ c', c.Moved (escapeChar x).length 0 c' ∧
      readQuotedWord false (fuel + 1) out c = readQuotedWord false fuel (x :: out) c' := by
  have short : ∀ e y, shortEscape? e = some y → isBreak e = false → c.rest = '\\' :: e :: more →
      ∃ c', c.Moved 2 0 c' ∧
        readQuotedWord false (fuel + 1) out c = readQuotedWord false fuel (y :: out) c' := by
    intro e y short no_break h
    have next := rest_skip h
    exact ⟨_, (moved_skip h).trans (moved_skip next),
      readQuotedWord_escape h no_break (readEscape_short next short) fuel out⟩
  obtain ⟨y, ys, first, no_gap, no_break⟩ := escapeChar_word word
  unfold escapeChar at h first ⊢
  split_ifs at h first ⊢ with quote backslash b f n r t control
  iterate 7
    · subst x
      exact short _ _ (by decide) (by decide) h
  · obtain ⟨c', moved, escape⟩ := readEscape_control control (rest_skip h)
    refine ⟨c', (moved_skip h).trans moved, ?_⟩
    rw [readQuotedWord_escape h (by decide) escape, Char.ofNat_toNat]
  · obtain rfl : x = y := (List.cons.inj first).1
    refine ⟨c.skip, moved_skip h, ?_⟩
    simp [readQuotedWord, look_zero h, no_gap, no_break, quote, backslash]

/-- The word ends here: with a gap, a break or the closing quote. -/
def StopsWord (cs : List Char) : Prop :=
  ∃ y ys, cs = y :: ys ∧ (isGap y = true ∨ isBreak y = true ∨ y = '\x22')

theorem readQuotedWord_word {after : List Char} (stops : StopsWord after) :
    ∀ {w : List Char}, (∀ x ∈ w, isFolding x = false) → ∀ {c : Cursor},
      c.rest = w.flatMap escapeChar ++ after → ∀ {fuel : Nat}, w.length < fuel → ∀ out,
        ∃ c', c.Moved (w.flatMap escapeChar).length 0 c' ∧
          readQuotedWord false fuel out c = some (w.reverse ++ out, false, c')
  | _, _, _, _, 0, enough, _ => by omega
  | [], _, c, h, fuel + 1, _, out => by
    obtain ⟨y, ys, rfl, stop⟩ := stops
    refine ⟨c, .refl c, ?_⟩
    rcases stop with gap | break_ | rfl
    · simp [readQuotedWord, look_zero h, gap]
    · simp [readQuotedWord, look_zero h, break_]
    · have no_end : isGap '\x22' = false ∧ isBreak '\x22' = false := by decide
      simp [readQuotedWord, look_zero h, no_end]
  | x :: w, word, c, h, fuel + 1, enough, out => by
    obtain ⟨here, later⟩ := List.forall_mem_cons.1 word
    rw [List.flatMap_cons, List.append_assoc] at h
    obtain ⟨c₁, moved, read⟩ := readQuotedWord_char here h fuel out
    have rest : c₁.rest = w.flatMap escapeChar ++ after := by
      rw [moved.rest, h, List.drop_left]
    obtain ⟨c₂, moved', read'⟩ := readQuotedWord_word stops later rest
      (show w.length < fuel by simpa using enough) (x :: out)
    refine ⟨c₂, ?_, ?_⟩
    · rw [List.flatMap_cons, List.length_append]
      exact moved.trans moved'
    · rw [read, read', List.reverse_cons, List.append_assoc]
      rfl

end Words

/-! ## Folds -/

def Fold.after (f : Fold) (run : List Char) : Fold :=
  run.foldl (fun f x => if isRawBreak x then f.newline (keptBreak x) else f.gap x) f

def breaks (cs : List Char) : Nat := cs.countP isRawBreak

/-- Whether a line starts after the characters; `start` says whether one starts before them. -/
def startsLine (start : Bool) (cs : List Char) : Bool := cs.foldl (fun _ x => isRawBreak x) start

/-- The run of gaps and breaks ends here. -/
def StopsFold (cs : List Char) : Prop :=
  ∃ y ys, cs = y :: ys ∧ isGap y = false ∧ isBreak y = false

section Folds

variable {c : Cursor} {x : Char} {more : List Char}

open Cursor (look_zero rest_skip moved_skip column_skip)

theorem isBreak_of_raw (h : isRawBreak x = true) : isBreak x = true := by
  simp only [isRawBreak, Bool.or_eq_true, beq_iff_eq] at h
  rcases h with (rfl | rfl) | rfl <;> decide

theorem isGap_of_raw (h : isRawBreak x = true) : isGap x = false := by
  simp only [isRawBreak, Bool.or_eq_true, beq_iff_eq] at h
  rcases h with (rfl | rfl) | rfl <;> decide

theorem breakText_raw (raw : isRawBreak x = true) (h : c.rest = x :: more) :
    c.breakText = keptBreak x := by
  simp only [isRawBreak, Bool.or_eq_true, beq_iff_eq] at raw
  rcases raw with (rfl | rfl) | rfl <;> simp [Cursor.breakText, h, keptBreak, isBreak]

theorem skipLine_raw (raw : isRawBreak x = true) (h : c.rest = x :: more) :
    c.skipLine =
      { c with rest := more, index := c.index + 1, line := c.line + 1, column := 0 } := by
  have no_return : x ≠ '\r' := by
    rintro rfl
    exact absurd raw (by decide)
  unfold Cursor.skipLine
  rw [h]
  split
  · rename_i same
    exact (no_return (List.cons.inj same).1).elim
  · rename_i same
    obtain ⟨rfl, rfl⟩ := List.cons.inj same
    rw [if_pos (isBreak_of_raw raw)]
  · rename_i same
    cases same

theorem readFold_folding (folding : isFolding x = true) (h : c.rest = x :: more) :
    ∃ c', c.Moved 1 (breaks [x]) c' ∧ (c'.column == 0) = isRawBreak x ∧
      ∀ fuel f, readFold 0 (fuel + 1) f c = readFold 0 fuel (f.after [x]) c' := by
  by_cases raw : isRawBreak x = true
  · refine ⟨c.skipLine, ?_, ?_, fun fuel f => ?_⟩
    · rw [skipLine_raw raw h]
      constructor <;> simp [h, breaks, raw]
    · simp [skipLine_raw raw h, raw]
    · simp [readFold, look_zero h, isGap_of_raw raw, isBreak_of_raw raw, Fold.after, raw,
        breakText_raw raw h]
  · obtain rfl : x = ' ' := by simpa [isFolding, raw] using folding
    refine ⟨c.skip, moved_skip h, ?_, fun fuel f => ?_⟩
    · simp [column_skip h, raw]
    · simp [readFold, look_zero h, isGap, Fold.after, raw]

theorem readFold_run {after : List Char} (stops : StopsFold after) :
    ∀ {run : List Char}, (∀ x ∈ run, isFolding x = true) → ∀ {c : Cursor},
      c.rest = run ++ after → ∀ {fuel : Nat}, run.length < fuel → ∀ f,
        ∃ c', c.Moved run.length (breaks run) c' ∧
          (c'.column == 0) = startsLine (c.column == 0) run ∧
          readFold 0 fuel f c = some (f.after run, c')
  | _, _, _, _, 0, enough, _ => by omega
  | [], _, c, h, fuel + 1, _, f => by
    obtain ⟨y, ys, rfl, no_gap, no_break⟩ := stops
    refine ⟨c, .refl c, rfl, ?_⟩
    simp [readFold, look_zero h, no_gap, no_break, Fold.after]
  | x :: run, folding, c, h, fuel + 1, enough, f => by
    obtain ⟨here, later⟩ := List.forall_mem_cons.1 folding
    obtain ⟨c₁, moved, column, read⟩ := readFold_folding here h
    have rest : c₁.rest = run ++ after := by rw [moved.rest, h]; rfl
    obtain ⟨c₂, moved', column', read'⟩ := readFold_run stops later rest
      (show run.length < fuel by simpa using enough) (f.after [x])
    refine ⟨c₂, ?_, ?_, ?_⟩
    · have lines : breaks ([x] ++ run) = breaks [x] + breaks run := List.countP_append
      rw [List.singleton_append] at lines
      rw [lines, List.length_cons, Nat.add_comm run.length]
      exact moved.trans moved'
    · rw [column', column]
      rfl
    · rw [read, read']
      rfl

end Folds

/-! ## Markers -/

theorem beginsMarker_iff {cs : List Char} :
    beginsMarker cs = true ↔
      ∃ x e more, (x = '-' ∨ x = '.') ∧ isFolding e = true ∧ cs = x :: x :: x :: e :: more := by
  constructor
  · intro h
    unfold beginsMarker at h
    split at h
    · rename_i a b d e more
      simp only [Bool.and_eq_true, Bool.or_eq_true, beq_iff_eq] at h
      obtain ⟨⟨⟨rfl, rfl⟩, mark⟩, folding⟩ := h
      exact ⟨a, e, more, mark, folding, rfl⟩
    · cases h
  · rintro ⟨x, e, more, rfl | rfl, folding, rfl⟩ <;> simp [beginsMarker, folding]

/-- A mark is written as it is, and nothing else is written so. -/
theorem written_mark {x : Char} (mark : x = '-' ∨ x = '.') {cs rest more : List Char}
    (h : cs.flatMap escapeChar ++ '\x22' :: rest = x :: more) :
    ∃ cs', cs = x :: cs' ∧ more = cs'.flatMap escapeChar ++ '\x22' :: rest := by
  cases cs with
  | nil =>
    obtain rfl := (List.cons.inj h).1
    exact absurd mark (by decide)
  | cons y cs =>
    have plain : escapeChar y = [y] ∨ ∃ ys, escapeChar y = '\\' :: ys := by
      unfold escapeChar
      split_ifs
      iterate 8 exact .inr ⟨_, rfl⟩
      exact .inl rfl
    rw [List.flatMap_cons, List.append_assoc] at h
    rcases plain with plain | ⟨ys, escaped⟩
    · rw [plain] at h
      obtain ⟨rfl, rfl⟩ := List.cons.inj h
      exact ⟨cs, rfl, rfl⟩
    · rw [escaped] at h
      obtain rfl := (List.cons.inj h).1
      exact absurd mark (by decide)

theorem written_endsWord {cs rest : List Char} :
    endsWord (cs.flatMap escapeChar ++ '\x22' :: rest)[0]? = true ↔
      ∃ e more, cs = e :: more ∧ isFolding e = true := by
  cases cs with
  | nil =>
    have no_end : endsWord (some '\x22') = false := by decide
    simp [no_end]
  | cons e more =>
    by_cases folding : isFolding e = true
    · have ends : endsWord (some e) = true := by
        rcases isFolding_cases folding with rfl | rfl | rfl | rfl <;> decide
      simp [escapeChar_folding folding, ends, folding]
    · obtain ⟨y, ys, first, no_gap, no_break⟩ := escapeChar_word (by simpa using folding)
      simp [first, endsWord, no_gap, no_break, folding]

theorem atMarker_iff {c : Cursor} {cs rest : List Char}
    (h : c.rest = cs.flatMap escapeChar ++ '\x22' :: rest) {x : Char} (mark : x = '-' ∨ x = '.') :
    c.atMarker x = true ↔
      c.column = 0 ∧ ∃ e more, isFolding e = true ∧ cs = x :: x :: x :: e :: more := by
  have read : c.atMarker x = true ↔ c.column = 0 ∧
      ∃ more, c.rest = x :: x :: x :: more ∧ endsWord more[0]? = true := by
    unfold Cursor.atMarker Cursor.has Cursor.look
    rcases c.rest with _ | ⟨a, _ | ⟨b, _ | ⟨d, more⟩⟩⟩ <;> simp
    grind
  rw [read, h]
  constructor
  · rintro ⟨column, more, marks, ends⟩
    obtain ⟨cs₁, rfl, second⟩ := written_mark mark marks
    obtain ⟨cs₂, rfl, third⟩ := written_mark mark second.symm
    obtain ⟨cs₃, rfl, fourth⟩ := written_mark mark third.symm
    rw [fourth] at ends
    obtain ⟨e, more, rfl, folding⟩ := written_endsWord.1 ends
    exact ⟨column, e, more, folding, rfl⟩
  · rintro ⟨column, e, more, folding, rfl⟩
    have plain : escapeChar x = [x] := by rcases mark with rfl | rfl <;> decide
    exact ⟨column, (e :: more).flatMap escapeChar ++ '\x22' :: rest, by simp [plain],
      written_endsWord.2 ⟨e, more, rfl, folding⟩⟩

theorem atDocumentMarker_eq {c : Cursor} {cs rest : List Char}
    (h : c.rest = cs.flatMap escapeChar ++ '\x22' :: rest) :
    c.atDocumentMarker = (c.column == 0 && beginsMarker cs) := by
  rw [Bool.eq_iff_iff, Bool.and_eq_true, beginsMarker_iff, beq_iff_eq]
  unfold Cursor.atDocumentMarker
  rw [Bool.or_eq_true, atMarker_iff h (.inl rfl), atMarker_iff h (.inr rfl)]
  constructor
  · rintro (⟨column, e, more, folding, rfl⟩ | ⟨column, e, more, folding, rfl⟩)
    · exact ⟨column, '-', e, more, .inl rfl, folding, rfl⟩
    · exact ⟨column, '.', e, more, .inr rfl, folding, rfl⟩
  · rintro ⟨column, x, e, more, rfl | rfl, folding, rfl⟩
    · exact .inl ⟨column, e, more, folding, rfl⟩
    · exact .inr ⟨column, e, more, folding, rfl⟩

theorem beginsMarker_folding {x : Char} (h : isFolding x = true) (cs : List Char) :
    beginsMarker (x :: cs) = false := by
  rw [Bool.eq_false_iff, Ne, beginsMarker_iff]
  rintro ⟨y, e, more, mark, -, same⟩
  obtain rfl := (List.cons.inj same).1
  rcases mark with rfl | rfl <;> exact absurd h (by decide)

theorem isMarked_start (start : Bool) (cs : List Char) :
    isMarked start cs = (start && beginsMarker cs || isMarked false cs) := by
  cases cs <;> simp [isMarked, beginsMarker]

theorem isMarked_word {w : List Char} (word : ∀ x ∈ w, isFolding x = false) (cs : List Char) :
    isMarked false (w ++ cs) = isMarked false cs := by
  induction w with
  | nil => rfl
  | cons x w ih =>
    obtain ⟨here, later⟩ := List.forall_mem_cons.1 word
    have no_break : isRawBreak x = false := (Bool.or_eq_false_iff.1 here).2
    rw [List.cons_append, isMarked, no_break, ih later]
    rfl

theorem isMarked_run {run : List Char} (folding : ∀ x ∈ run, isFolding x = true) (start : Bool)
    (cs : List Char) : isMarked start (run ++ cs) = isMarked (startsLine start run) cs := by
  induction run generalizing start with
  | nil => rfl
  | cons x run ih =>
    obtain ⟨here, later⟩ := List.forall_mem_cons.1 folding
    rw [List.cons_append, isMarked, beginsMarker_folding here, Bool.and_false, Bool.false_or,
      ih later]
    rfl

/-! ## Whole texts -/

theorem foldedFrom_word {w : List Char} (word : ∀ x ∈ w, isFolding x = false) (cs : List Char) :
    folded (w ++ cs) = w ++ folded cs := by
  induction w with
  | nil => rfl
  | cons x w ih =>
    obtain ⟨here, later⟩ := List.forall_mem_cons.1 word
    obtain ⟨no_space, no_break⟩ := Bool.or_eq_false_iff.1 here
    have step : folded (x :: (w ++ cs)) = [] ++ x :: folded (w ++ cs) := by
      simp [folded, foldedFrom, no_space, no_break, Fold.joined]
    rw [List.cons_append, step, ih later]
    rfl

theorem foldedFrom_run {run : List Char} (folding : ∀ x ∈ run, isFolding x = true) (f : Fold)
    (cs : List Char) : foldedFrom f (run ++ cs) = foldedFrom (f.after run) cs := by
  induction run generalizing f with
  | nil => rfl
  | cons x run ih =>
    obtain ⟨here, later⟩ := List.forall_mem_cons.1 folding
    rw [List.cons_append, foldedFrom]
    split
    · rename_i raw
      rw [ih later]
      simp [Fold.after, raw]
    · rename_i no_break
      have space : (x == ' ') = true := by simpa [isFolding, no_break] using here
      rw [if_pos space, ih later]
      simp [Fold.after, no_break]

/-- The gaps and breaks stand before the text that follows them. -/
theorem foldedFrom_word_first (f : Fold) {cs : List Char}
    (stops : ∀ x ∈ cs.head?, isFolding x = false) : foldedFrom f cs = f.joined ++ folded cs := by
  cases cs with
  | nil => simp [folded, foldedFrom, Fold.joined]
  | cons x cs =>
    obtain ⟨no_space, no_break⟩ := Bool.or_eq_false_iff.1 (stops x rfl)
    simp [folded, foldedFrom, no_space, no_break, Fold.joined]

theorem folded_word_run {w run tail : List Char} (word : ∀ x ∈ w, isFolding x = false)
    (folding : ∀ x ∈ run, isFolding x = true) (stops : ∀ x ∈ tail.head?, isFolding x = false) :
    folded (w ++ (run ++ tail)) = w ++ ((Fold.after {} run).joined ++ folded tail) := by
  rw [foldedFrom_word word, ← foldedFrom_word_first _ stops, ← foldedFrom_run folding, folded]

/-- A text is a word, the gaps and breaks after it, and what follows these. -/
theorem exists_word_run (cs : List Char) :
    ∃ w run tail, cs = w ++ (run ++ tail) ∧ (∀ x ∈ w, isFolding x = false) ∧
      (∀ x ∈ run, isFolding x = true) ∧ (∀ x ∈ tail.head?, isFolding x = false) ∧
      (run = [] → tail = []) := by
  refine ⟨cs.takeWhile (!isFolding ·), (cs.dropWhile (!isFolding ·)).takeWhile isFolding,
    (cs.dropWhile (!isFolding ·)).dropWhile isFolding, ?_, ?_, ?_, ?_, ?_⟩
  · rw [List.takeWhile_append_dropWhile, List.takeWhile_append_dropWhile]
  · intro x h
    simpa using List.mem_takeWhile_imp h
  · intro x h
    exact List.mem_takeWhile_imp h
  · intro x h
    have := List.head?_dropWhile_not isFolding (cs.dropWhile (!isFolding ·))
    rw [Option.mem_def.1 h] at this
    simpa using this
  · intro none_folds
    cases after : cs.dropWhile (!isFolding ·) with
    | nil => rfl
    | cons x more =>
      have first := List.head?_dropWhile_not (!isFolding ·) cs
      rw [after] at first none_folds
      simp_all

theorem breaks_append (cs cs' : List Char) : breaks (cs ++ cs') = breaks cs + breaks cs' :=
  List.countP_append

theorem breaks_word {w : List Char} (word : ∀ x ∈ w, isFolding x = false) : breaks w = 0 :=
  List.countP_eq_zero.2 fun x h => by simp [(Bool.or_eq_false_iff.1 (word x h)).2]

theorem escaped_folding {run : List Char} (folding : ∀ x ∈ run, isFolding x = true) :
    run.flatMap escapeChar = run := by
  induction run with
  | nil => rfl
  | cons x run ih =>
    obtain ⟨here, later⟩ := List.forall_mem_cons.1 folding
    rw [List.flatMap_cons, escapeChar_folding here, ih later]
    rfl

theorem escaped_word_run {w run tail : List Char} (folding : ∀ x ∈ run, isFolding x = true) :
    (w ++ (run ++ tail)).flatMap escapeChar =
      w.flatMap escapeChar ++ (run ++ tail.flatMap escapeChar) := by
  rw [List.flatMap_append, List.flatMap_append, escaped_folding folding]

theorem length_le_escaped (cs : List Char) : cs.length ≤ (cs.flatMap escapeChar).length := by
  induction cs with
  | nil => exact Nat.le_refl _
  | cons x cs ih =>
    have some_char : 0 < (escapeChar x).length := by
      unfold escapeChar
      split_ifs <;> simp
    rw [List.flatMap_cons, List.length_append, List.length_cons]
    omega

/-- What begins with no gap or break ends a fold. -/
theorem stopsFold_escaped {cs : List Char} (stops : ∀ x ∈ cs.head?, isFolding x = false)
    (rest : List Char) : StopsFold (cs.flatMap escapeChar ++ '\x22' :: rest) := by
  cases cs with
  | nil => exact ⟨'\x22', rest, rfl, by decide, by decide⟩
  | cons x cs =>
    obtain ⟨y, ys, first, no_gap, no_break⟩ := escapeChar_word (stops x rfl)
    exact ⟨y, _, by rw [List.flatMap_cons, first]; rfl, no_gap, no_break⟩

section Whole

variable {c : Cursor} {w run tail rest : List Char}

theorem readQuotedWords_last (word : ∀ x ∈ w, isFolding x = false)
    (h : c.rest = w.flatMap escapeChar ++ '\x22' :: rest) (sized : c.Sized)
    (unmarked : c.atDocumentMarker = false) (fuel : Nat) (out : List Char) :
    ∃ c', c.Moved ((w.flatMap escapeChar).length + 1) 0 c' ∧
      readQuotedWords false (fuel + 1) out c = some (w.reverse ++ out, c') := by
  have enough : w.length < c.left + 1 := by
    have := length_le_escaped w
    rw [sized.left_eq, h, List.length_append]
    omega
  obtain ⟨c₁, moved, read⟩ := readQuotedWord_word ⟨_, rest, rfl, .inr (.inr rfl)⟩ word h enough out
  have quote : c₁.rest = '\x22' :: rest := by rw [moved.rest, h, List.drop_left]
  refine ⟨c₁.skip, moved.trans (Cursor.moved_skip quote), ?_⟩
  have closed : c₁.has 0 (closingQuote false) = true := by
    simp [Cursor.has, Cursor.look_zero quote, closingQuote]
  have more : c.rest.isEmpty = false := by simp [h]
  simp [readQuotedWords, unmarked, more, read, closed]

theorem readQuotedWords_word {x : Char} (word : ∀ x ∈ w, isFolding x = false)
    (folding : ∀ y ∈ x :: run, isFolding y = true)
    (stops : ∀ x ∈ tail.head?, isFolding x = false)
    (h : c.rest = w.flatMap escapeChar ++ (x :: run ++ (tail.flatMap escapeChar ++ '\x22' :: rest)))
    (sized : c.Sized) (unmarked : c.atDocumentMarker = false) (fuel : Nat) (out : List Char) :
    ∃ c', c.Moved ((w.flatMap escapeChar).length + (x :: run).length) (breaks (x :: run)) c' ∧
      (c'.column == 0) = startsLine false (x :: run) ∧
      readQuotedWords false (fuel + 1) out c =
        readQuotedWords false fuel
          ((Fold.after {} (x :: run)).joined.reverse ++ (w.reverse ++ out)) c' := by
  have enough : w.length < c.left + 1 := by
    have := length_le_escaped w
    rw [sized.left_eq, h, List.length_append]
    omega
  have first := isFolding_cases (folding x List.mem_cons_self)
  have stopsWord : StopsWord (x :: run ++ (tail.flatMap escapeChar ++ '\x22' :: rest)) := by
    refine ⟨x, _, rfl, ?_⟩
    rcases first with rfl | rfl | rfl | rfl <;> decide
  obtain ⟨c₁, moved, read⟩ := readQuotedWord_word stopsWord word h enough out
  have rest₁ : c₁.rest = x :: run ++ (tail.flatMap escapeChar ++ '\x22' :: rest) := by
    rw [moved.rest, h, List.drop_left]
  have enough₁ : (x :: run).length < c₁.left + 1 := by
    rw [(moved.sized sized).left_eq, rest₁, List.length_append]
    omega
  obtain ⟨c₂, moved', column, read'⟩ := readFold_run (stopsFold_escaped stops rest) folding rest₁
    enough₁ {}
  refine ⟨c₂, by simpa using moved.trans moved', column, ?_⟩
  have no_quote : c₁.has 0 (closingQuote false) = false := by
    simp only [Cursor.has, Cursor.look_zero rest₁, closingQuote]
    rcases first with rfl | rfl | rfl | rfl <;> decide
  have more : c.rest.isEmpty = false := by simp [h]
  simp [readQuotedWords, unmarked, more, read, no_quote, read']

end Whole

/-- The words of a text are read as its folded form, up to the closing quote. -/
theorem readQuotedWords_chars (rest : List Char) :
    ∀ {fuel : Nat} {cs : List Char} {c : Cursor}, cs.length < fuel →
      c.rest = cs.flatMap escapeChar ++ '\x22' :: rest → c.Sized → ∀ out : List Char,
        (isMarked (c.column == 0) cs = true → readQuotedWords false fuel out c = none) ∧
        (isMarked (c.column == 0) cs = false →
          ∃ c', c.Moved ((cs.flatMap escapeChar).length + 1) (breaks cs) c' ∧
            readQuotedWords false fuel out c = some ((folded cs).reverse ++ out, c'))
  | 0, _, _, enough, _, _, _ => by omega
  | fuel + 1, cs, c, enough, h, sized, out => by
    rw [isMarked_start]
    cases marker : c.column == 0 && beginsMarker cs with
    | true =>
      have stopped : readQuotedWords false (fuel + 1) out c = none := by
        simp [readQuotedWords, atDocumentMarker_eq h, marker]
      simp [stopped]
    | false =>
      rw [Bool.false_or]
      have unmarked : c.atDocumentMarker = false := (atDocumentMarker_eq h).trans marker
      obtain ⟨w, run, tail, rfl, word, folding, stops, last⟩ := exists_word_run cs
      rw [isMarked_word word, breaks_append, breaks_word word]
      cases run with
      | nil =>
        obtain rfl := last rfl
        rw [foldedFrom_word word]
        simp only [show folded [] = [] from rfl, List.append_nil] at h ⊢
        obtain ⟨c', moved, read⟩ := readQuotedWords_last word h sized unmarked fuel out
        exact ⟨fun marked => absurd marked Bool.false_ne_true, fun _ => ⟨c', moved, read⟩⟩
      | cons x run =>
        have parted : c.rest =
            w.flatMap escapeChar ++ (x :: run ++ (tail.flatMap escapeChar ++ '\x22' :: rest)) := by
          rw [h, escaped_word_run folding, List.append_assoc, List.append_assoc]
        -- One round of the reader takes the word and the run, and the tail is left to the next.
        obtain ⟨c₁, moved, column, read⟩ := readQuotedWords_word word folding stops parted sized
          unmarked fuel out
        have rest₁ : c₁.rest = tail.flatMap escapeChar ++ '\x22' :: rest := by
          rw [moved.rest, parted, ← List.append_assoc, ← List.length_append, List.drop_left]
        have shorter : tail.length < fuel := by
          simp only [List.length_append, List.length_cons] at enough
          omega
        obtain ⟨stopped, found⟩ := readQuotedWords_chars rest shorter rest₁ (moved.sized sized)
          ((Fold.after {} (x :: run)).joined.reverse ++ (w.reverse ++ out))
        rw [isMarked_run folding, ← column, read]
        refine ⟨stopped, fun later => ?_⟩
        obtain ⟨c', moved', read'⟩ := found later
        refine ⟨c', ?_, ?_⟩
        · rw [escaped_word_run folding, breaks_append, Nat.zero_add, List.length_append,
            List.length_append, ← Nat.add_assoc, Nat.add_assoc _ _ 1]
          exact moved.trans moved'
        · rw [read', folded_word_run word folding stops]
          simp

/-- A text of JSON is read as its folded form, unless it is marked. -/
theorem readQuoted_chars {c : Cursor} {cs rest : List Char} (h : c.rest = quoteChars cs ++ rest)
    (sized : c.Sized) :
    (isMarked false cs = true → readQuoted false c = none) ∧
    (isMarked false cs = false →
      ∃ c', c.Moved (quoteChars cs).length (breaks cs) c' ∧
        readQuoted false c = some (folded cs, c')) := by
  have opened : c.rest = '\x22' :: (cs.flatMap escapeChar ++ '\x22' :: rest) := by
    simp [h, quoteChars]
  have moved := Cursor.moved_skip opened
  have inside : (c.skip.column == 0) = false := by simp [Cursor.column_skip opened]
  have enough : cs.length < 2 * c.left + 2 := by
    have := length_le_escaped cs
    rw [sized.left_eq, opened, List.length_cons, List.length_append]
    omega
  obtain ⟨stopped, found⟩ := readQuotedWords_chars rest enough (Cursor.rest_skip opened)
    (moved.sized sized) []
  rw [inside] at stopped found
  refine ⟨fun marked => by simp [readQuoted, stopped marked], fun unmarked => ?_⟩
  obtain ⟨c', moved', read⟩ := found unmarked
  refine ⟨c', ?_, by simp [readQuoted, read]⟩
  have length : (quoteChars cs).length = 1 + ((cs.flatMap escapeChar).length + 1) := by
    simp [quoteChars]
    omega
  rw [length, ← Nat.zero_add (breaks cs)]
  exact moved.trans moved'

end ProjectPicker.Yaml
