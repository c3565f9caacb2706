import Mathlib.Tactic.SplitIfs
import ProjectPicker.Json.Reader

/-!
# Reading what was written

* `readText_escaped` : a text that was escaped is read back, whatever its characters;
* `Numberless` : the values that are made of texts, truth values, arrays and objects;
* `readsBack` : such a value is read back from its characters, with any blanks between them;
* `read_compact` : it is the value in its text, and nothing else is.
-/

set_option autoImplicit false

namespace ProjectPicker.Json

/-! ## Texts -/

theorem hexValue_hexDigit : ∀ n < 16, Text.hexValue? (hexDigit n) = some n := by decide

theorem hexUnit_control {n : Nat} (h : n < 0x20) :
    hexUnit? '0' '0' (hexDigit (n / 16)) (hexDigit (n % 16)) = some n := by
  have zero : Text.hexValue? '0' = some 0 := by decide
  have high := hexValue_hexDigit (n / 16) (by omega)
  have low := hexValue_hexDigit (n % 16) (by omega)
  simp only [hexUnit?, zero, high, low, Option.bind_eq_bind, Option.bind_some, Option.pure_def]
  congr 1
  omega

def BeginsUnit (cs : List Char) : Prop :=
  ∃ a b c d rest, cs = '\\' :: 'u' :: a :: b :: c :: d :: rest

theorem readText_no_unit {a b c d : Char} (h : hexUnit? a b c d = none) (rest : List Char) :
    readText ('\\' :: 'u' :: a :: b :: c :: d :: rest) = none := by
  by_cases paired : BeginsUnit rest
  · obtain ⟨e, f, g, i, more, rfl⟩ := paired
    rw [readText.eq_3, h]
  · rw [readText.eq_4 _ _ _ _ _ fun e f g i more same => paired ⟨e, f, g, i, more, same⟩, h]

/-- A control in an escape of four digits is read by itself, also where such an escape follows. -/
theorem readText_control {n : Nat} (h : n < 0x20) (rest : List Char) :
    readText ('\\' :: 'u' :: '0' :: '0' :: hexDigit (n / 16) :: hexDigit (n % 16) :: rest) =
      (readText rest).map fun r => (consDecoded (some (Char.ofNat n)) r.1, r.2) := by
  have high : isHighSurrogate n = false := by
    simp only [isHighSurrogate, Bool.and_eq_false_iff, decide_eq_false_iff_not]
    omega
  have low : isLowSurrogate n = false := by
    simp only [isLowSurrogate, Bool.and_eq_false_iff, decide_eq_false_iff_not]
    omega
  have unit : readText.unitChar n = some (Char.ofNat n) := by
    simp [readText.unitChar, high, low]
  by_cases paired : BeginsUnit rest
  · obtain ⟨e, f, g, i, more, rfl⟩ := paired
    rw [readText.eq_3, hexUnit_control h]
    cases following : hexUnit? e f g i with
    | none => rw [readText_no_unit following]; rfl
    | some v => simp [high, unit]
  · rw [readText.eq_4 _ _ _ _ _ fun e f g i more same => paired ⟨e, f, g, i, more, same⟩,
      hexUnit_control h]
    simp only [unit]

theorem readText_escapeChar (c : Char) (rest : List Char) :
    readText (escapeChar c ++ rest) =
      (readText rest).map fun r => (consDecoded (some c) r.1, r.2) := by
  unfold escapeChar
  split_ifs with quote backslash b f n r t control
  iterate 7
    · subst c
      simp [readText, shortEscape?]
  · have four := readText_control control rest
    rw [Char.ofNat_toNat] at four
    exact four
  · rw [List.singleton_append, readText.eq_6 c rest (by simp [quote]) (by simp [backslash])
      (by simp [backslash]) (by simp [backslash])]
    simp [control, backslash]

theorem readText_escaped (cs rest : List Char) :
    readText (cs.flatMap escapeChar ++ '\x22' :: rest) = some (some cs, rest) := by
  induction cs with
  | nil => simp [readText]
  | cons c cs ih =>
    rw [List.flatMap_cons, List.append_assoc, readText_escapeChar, ih]
    rfl

/-! ## Values -/

/-- A value that is made of texts, truth values, arrays and objects. -/
inductive Numberless : Json → Prop
  | null : Numberless .null
  | bool (b : Bool) : Numberless (.bool b)
  | str (s : String) : Numberless (.str s)
  | array {items : List Json} : (∀ j ∈ items, Numberless j) → Numberless (.array items)
  | object {members : List (Json × Json)} :
    (∀ m ∈ members, ∃ name, m.1 = .str name) → (∀ m ∈ members, Numberless m.2) →
      Numberless (.object members)

def Layout.IsBlank (l : Layout) : Prop :=
  (∀ depth, ∀ c ∈ l.newline depth, Json.isBlank c = true) ∧
    ∀ c ∈ l.afterColon, Json.isBlank c = true

theorem Layout.isBlank_compact : Layout.compact.IsBlank := by
  simp [Layout.IsBlank, Layout.compact]

theorem skipBlanks_append {blanks : List Char} (h : ∀ c ∈ blanks, isBlank c = true)
    (cs : List Char) : skipBlanks (blanks ++ cs) = skipBlanks cs :=
  List.dropWhile_append_of_pos h

/-- The characters begin with one that is no blank, and ends no array. -/
def BeginsValue (cs : List Char) : Prop := ∃ c rest, cs = c :: rest ∧ isBlank c = false ∧ c ≠ ']'

theorem BeginsValue.skipBlanks {cs : List Char} (h : BeginsValue cs) : skipBlanks cs = cs := by
  obtain ⟨c, rest, rfl, visible, -⟩ := h
  exact List.dropWhile_cons_of_neg (by simp [visible])

theorem BeginsValue.append {cs : List Char} (h : BeginsValue cs) (more : List Char) :
    BeginsValue (cs ++ more) := by
  obtain ⟨c, rest, rfl, visible⟩ := h
  exact ⟨c, rest ++ more, rfl, visible⟩

theorem beginsValue_chars {l : Layout} {depth : Nat} {j : Json} (h : Numberless j) :
    BeginsValue (chars l depth j) := by
  cases h with
  | null => exact ⟨'n', _, rfl, rfl, by decide⟩
  | bool b => cases b <;> exact ⟨_, _, rfl, rfl, by decide⟩
  | str s => exact ⟨'\x22', _, rfl, rfl, by decide⟩
  | @array items => cases items <;> exact ⟨'[', _, rfl, rfl, by decide⟩
  | @object members => cases members <;> exact ⟨'\x7b', _, rfl, rfl, by decide⟩

variable {l : Layout}

/-- The value is read back from its characters, whatever follows them, if the fuel is twice their
number. -/
def ReadsBack (l : Layout) (j : Json) : Prop :=
  ∀ (fuel depth : Nat) (blanks rest : List Char), (∀ c ∈ blanks, isBlank c = true) →
    2 * (chars l depth j).length ≤ fuel →
      readValue fuel (blanks ++ chars l depth j ++ rest) = (j, some rest)

theorem skipBlanks_mark {c : Char} (visible : isBlank c = false) (cs : List Char) :
    skipBlanks (c :: cs) = c :: cs :=
  List.dropWhile_cons_of_neg (by simp [visible])

theorem readItems_chars (blank : l.IsBlank) (depth outer : Nat) (rest : List Char) :
    ∀ {items : List Json} {j : Json}, (∀ i ∈ j :: items, ReadsBack l i) →
      ∀ (fuel : Nat) (blanks : List Char), (∀ c ∈ blanks, isBlank c = true) →
        2 * (chars l depth j ++ itemChars l depth items).length + 1 ≤ fuel →
          readItems fuel (blanks ++ chars l depth j ++ (itemChars l depth items ++
            (l.newline outer ++ ']' :: rest))) = (j :: items, some rest)
  | _, _, _, 0, _, _, enough => by simp at enough
  | [], j, reads, fuel + 1, blanks, hb, enough => by
    have read := reads j List.mem_cons_self fuel depth blanks (l.newline outer ++ ']' :: rest) hb
      (by simp [itemChars] at enough; omega)
    have closed : skipBlanks (l.newline outer ++ ']' :: rest) = ']' :: rest := by
      rw [skipBlanks_append (blank.1 outer), skipBlanks_mark rfl]
    unfold readItems
    rw [itemChars, List.nil_append, read]
    simp only [closed]
  | i :: items, j, reads, fuel + 1, blanks, hb, enough => by
    simp only [itemChars, List.cons_append, List.append_assoc, List.length_append,
      List.length_cons] at enough
    have read := reads j List.mem_cons_self fuel depth blanks
      (itemChars l depth (i :: items) ++ (l.newline outer ++ ']' :: rest)) hb (by omega)
    have others := readItems_chars blank depth outer rest (fun k hk =>
      reads k (List.mem_cons_of_mem _ hk)) fuel (l.newline depth) (blank.1 depth)
      (by rw [List.length_append]; omega)
    have comma : skipBlanks (itemChars l depth (i :: items) ++ (l.newline outer ++ ']' :: rest)) =
        ',' :: (l.newline depth ++ chars l depth i ++ (itemChars l depth items ++
          (l.newline outer ++ ']' :: rest))) := by
      simp only [itemChars, List.cons_append, List.append_assoc]
      exact skipBlanks_mark rfl _
    unfold readItems
    rw [read]
    simp only [comma, others]

theorem chars_str (l : Layout) (depth : Nat) (name : String) (rest : List Char) :
    chars l depth (.str name) ++ rest =
      '\x22' :: (name.toList.flatMap escapeChar ++ '\x22' :: rest) := by
  simp [str, chars, quoteChars]

theorem text_toList (s : String) : Json.text ((some s.toList).map String.ofList) = .str s := by
  simp [str]

theorem readMembers_chars (blank : l.IsBlank) (depth outer : Nat) (rest : List Char) :
    ∀ (members : List (Json × Json)) (name : String) (j : Json), ReadsBack l j →
      (∀ m ∈ members, (∃ name, m.1 = .str name) ∧ ReadsBack l m.2) →
      ∀ (fuel : Nat) (blanks : List Char), (∀ c ∈ blanks, isBlank c = true) →
        2 * (chars l depth (.str name) ++ ':' :: l.afterColon ++ chars l depth j ++
          memberChars l depth members).length + 1 ≤ fuel →
          readMembers fuel (blanks ++ (chars l depth (.str name) ++ (':' :: (l.afterColon ++
            chars l depth j ++ (memberChars l depth members ++
              (l.newline outer ++ '\x7d' :: rest)))))) = ((.str name, j) :: members, some rest)
  | _, _, _, _, _, 0, _, _, enough => by simp at enough
  | [], name, j, reads, _, fuel + 1, blanks, hb, enough => by
    have read := reads fuel depth l.afterColon (l.newline outer ++ '\x7d' :: rest) blank.2
      (by simp [memberChars] at enough; omega)
    have closed : skipBlanks (l.newline outer ++ '\x7d' :: rest) = '\x7d' :: rest := by
      rw [skipBlanks_append (blank.1 outer), skipBlanks_mark rfl]
    unfold readMembers
    rw [skipBlanks_append hb, chars_str, skipBlanks_mark rfl]
    simp only [readText_escaped, skipBlanks_mark (c := ':') rfl, memberChars, List.nil_append, read,
      closed, text_toList]
  | (key, value) :: members, name, j, reads, others, fuel + 1, blanks, hb, enough => by
    obtain ⟨⟨⟨next, rfl⟩, reads_next⟩, reads_others⟩ := List.forall_mem_cons.1 others
    simp only [memberChars, List.cons_append, List.append_assoc, List.length_append,
      List.length_cons] at enough
    have read := reads fuel depth l.afterColon
      (memberChars l depth ((.str next, value) :: members) ++ (l.newline outer ++ '\x7d' :: rest))
      blank.2 (by omega)
    -- Behind the comma the reader is before the next name, as it was before this one.
    have following := readMembers_chars blank depth outer rest members next value reads_next
      reads_others fuel (l.newline depth) (blank.1 depth)
      (by simp only [List.length_append, List.length_cons]; omega)
    have comma : skipBlanks (memberChars l depth ((.str next, value) :: members) ++
        (l.newline outer ++ '\x7d' :: rest)) =
          ',' :: (l.newline depth ++ (chars l depth (.str next) ++ (':' :: (l.afterColon ++
            chars l depth value ++ (memberChars l depth members ++
              (l.newline outer ++ '\x7d' :: rest)))))) := by
      simp only [memberChars, List.cons_append, List.append_assoc]
      exact skipBlanks_mark rfl _
    unfold readMembers
    rw [skipBlanks_append hb, chars_str, skipBlanks_mark rfl]
    simp only [readText_escaped, skipBlanks_mark (c := ':') rfl, read, comma, following,
      text_toList]

theorem readValue_blanks {blanks : List Char} (h : ∀ c ∈ blanks, isBlank c = true)
    {fuel : Nat} {cs : List Char} : readValue fuel (blanks ++ cs) = readValue fuel cs := by
  cases fuel with
  | zero => rfl
  | succ fuel =>
    unfold readValue
    rw [skipBlanks_append h]

theorem readValue_scalar {j : Json} {cs : List Char} (begins : BeginsValue cs)
    (no_bracket : ∀ rest, cs ≠ '[' :: rest ∧ cs ≠ '\x7b' :: rest) {rest : List Char}
    (read : readScalar cs = some (j, rest)) (fuel : Nat) :
    readValue (fuel + 1) cs = (j, some rest) := by
  unfold readValue
  rw [begins.skipBlanks]
  split
  · exact ((no_bracket _).1 rfl).elim
  · exact ((no_bracket _).2 rfl).elim
  · rw [read]

theorem readValue_array {fuel : Nat} {cs inner : List Char} {items : List Json}
    {rest : List Char} (skipped : skipBlanks cs = inner) (begins : BeginsValue inner)
    (read : readItems fuel inner = (items, some rest)) :
    readValue (fuel + 1) ('[' :: cs) = (.array items, some rest) := by
  obtain ⟨c, more, rfl, -, no_end⟩ := begins
  simp only [readValue, skipBlanks_mark (c := '[') rfl, skipped]
  split
  · rename_i same
    exact (no_end (List.cons.inj same).1).elim
  · rw [read]

theorem readValue_object {fuel : Nat} {cs inner : List Char} {members : List (Json × Json)}
    {rest : List Char} (skipped : skipBlanks cs = '\x22' :: inner)
    (read : readMembers fuel ('\x22' :: inner) = (members, some rest)) :
    readValue (fuel + 1) ('\x7b' :: cs) = (.object members, some rest) := by
  simp only [readValue, skipBlanks_mark (c := '\x7b') rfl, skipped]
  change (Json.object (readMembers fuel ('\x22' :: inner)).1, _) = _
  rw [read]

theorem readsBack_null : ReadsBack l .null := by
  intro fuel depth blanks rest hb enough
  obtain ⟨fuel, rfl⟩ : ∃ n, fuel = n + 1 := ⟨fuel - 1, by simp [chars] at enough; omega⟩
  rw [List.append_assoc, readValue_blanks hb]
  exact readValue_scalar ((beginsValue_chars .null).append rest) (by simp [chars]) rfl fuel

theorem readsBack_bool (b : Bool) : ReadsBack l (.bool b) := by
  intro fuel depth blanks rest hb enough
  cases b
  all_goals
    obtain ⟨fuel, rfl⟩ : ∃ n, fuel = n + 1 := ⟨fuel - 1, by simp [chars] at enough; omega⟩
    rw [List.append_assoc, readValue_blanks hb]
    exact readValue_scalar ((beginsValue_chars (.bool _)).append rest) (by simp [chars]) rfl fuel

theorem readsBack_str (s : String) : ReadsBack l (.str s) := by
  intro fuel depth blanks rest hb enough
  obtain ⟨fuel, rfl⟩ : ∃ n, fuel = n + 1 :=
    ⟨fuel - 1, by simp [str, chars, quoteChars] at enough; omega⟩
  have read : readScalar (chars l depth (.str s) ++ rest) = some (.str s, rest) := by
    rw [chars_str]
    simp only [readScalar, readText_escaped, Option.map_some, ← text_toList]
  rw [List.append_assoc, readValue_blanks hb]
  exact readValue_scalar ((beginsValue_chars (.str s)).append rest) (by simp [chars_str]) read fuel

theorem readsBack_array (blank : l.IsBlank) {items : List Json}
    (each : ∀ j ∈ items, Numberless j ∧ ReadsBack l j) : ReadsBack l (.array items) := by
  intro fuel depth blanks rest hb enough
  rw [List.append_assoc, readValue_blanks hb]
  cases items with
  | nil =>
    obtain ⟨fuel, rfl⟩ : ∃ n, fuel = n + 1 := ⟨fuel - 1, by simp [chars] at enough; omega⟩
    rfl
  | cons j items =>
    simp only [chars, List.cons_append, List.append_assoc, List.length_append,
      List.length_cons] at enough ⊢
    obtain ⟨fuel, rfl⟩ : ∃ n, fuel = n + 1 := ⟨fuel - 1, by omega⟩
    have begins : BeginsValue (chars l (depth + 1) j ++ (itemChars l (depth + 1) items ++
        (l.newline depth ++ ']' :: rest))) :=
      (beginsValue_chars (each j List.mem_cons_self).1).append _
    have read := readItems_chars blank (depth + 1) depth rest (fun i hi => (each i hi).2) fuel []
      (by simp) (by rw [List.length_append]; omega)
    have skipped := skipBlanks_append (blank.1 (depth + 1)) (chars l (depth + 1) j ++
      (itemChars l (depth + 1) items ++ (l.newline depth ++ ']' :: rest)))
    rw [begins.skipBlanks] at skipped
    exact readValue_array skipped begins read

theorem readsBack_object (blank : l.IsBlank) {members : List (Json × Json)}
    (each : ∀ m ∈ members, (∃ name, m.1 = .str name) ∧ ReadsBack l m.2) :
    ReadsBack l (.object members) := by
  intro fuel depth blanks rest hb enough
  rw [List.append_assoc, readValue_blanks hb]
  cases members with
  | nil =>
    obtain ⟨fuel, rfl⟩ : ∃ n, fuel = n + 1 := ⟨fuel - 1, by simp [chars] at enough; omega⟩
    rfl
  | cons m members =>
    obtain ⟨⟨⟨name, first⟩, reads⟩, others⟩ := List.forall_mem_cons.1 each
    obtain ⟨key, j⟩ := m
    obtain rfl : key = .str name := first
    simp only [chars, List.cons_append, List.append_assoc, List.nil_append, List.length_append,
      List.length_cons] at enough ⊢
    obtain ⟨fuel, rfl⟩ : ∃ n, fuel = n + 1 := ⟨fuel - 1, by omega⟩
    have read := readMembers_chars blank (depth + 1) depth rest members name j reads others fuel []
      (by simp) (by simp only [List.length_append, List.length_cons]; omega)
    have skipped := skipBlanks_append (blank.1 (depth + 1)) (chars l (depth + 1) (.str name) ++
      (':' :: (l.afterColon ++ (chars l (depth + 1) j ++ (memberChars l (depth + 1) members ++
        (l.newline depth ++ '\x7d' :: rest))))))
    rw [chars_str, skipBlanks_mark rfl] at skipped
    rw [List.nil_append, chars_str, List.append_assoc] at read
    rw [chars_str]
    exact readValue_object skipped read

/-- A value without numbers is read back from its characters. -/
theorem readsBack (blank : l.IsBlank) {j : Json} (h : Numberless j) : ReadsBack l j := by
  induction h with
  | null => exact readsBack_null
  | bool b => exact readsBack_bool b
  | str s => exact readsBack_str s
  | array plain ih => exact readsBack_array blank fun j hj => ⟨plain j hj, ih j hj⟩
  | object named _ ih => exact readsBack_object blank fun m hm => ⟨named m hm, ih m hm⟩

/-- The text of a value without numbers holds that value and nothing else. -/
theorem read_compact {j : Json} (h : Numberless j) : read j.compact = ⟨j, true⟩ := by
  have back := readsBack Layout.isBlank_compact h (2 * (chars .compact 0 j).length + 2) 0 [] []
    (by simp) (by omega)
  simp only [List.nil_append, List.append_nil] at back
  simp only [read, compact, String.toList_ofList, back]
  rfl

end ProjectPicker.Json
