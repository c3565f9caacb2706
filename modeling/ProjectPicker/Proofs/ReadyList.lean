import Mathlib.Data.List.Nodup
import Mathlib.Logic.Relation
import ProjectPicker.ReadyList

/-!
# The changes of the ready list

* `ReadyList.Distinct` : no two projects share a name;
* `ReadyList.Removed`, `ReadyList.Replaced` : one entry is gone, or another stands in its place,
  and the others are where they were;
* `append_eq_ok_iff`, `replace_eq_ok`, `remove_eq_ok` : what a granted change does;
* `ReadyList.FirstClash`, `append_eq_error_iff` : for which of its names a batch is refused;
* `Replaced.eq_set`, `Replaced.sole` : the entry of a name stands at the position of the name, and
  no other has it;
* `find?_of_mem`, `replace_self` : a project is found by its name, and may stand in its own place;
* `ReadyList.Changes` : any number of granted changes, which keep names distinct
  (`Distinct.changes`).
-/

set_option autoImplicit false

namespace ProjectPicker.ReadyList

variable {ready batch new : List Template} {taken names : List String} {name old : String}
  {t : Template}

def Distinct (ready : List Template) : Prop := (Template.names ready).Nodup

theorem distinct_nil : Distinct [] := List.nodup_nil

/-- `new` is `ready` without the entry `t` called `name`; the others keep their order. -/
def Removed (name : String) (t : Template) (ready new : List Template) : Prop :=
  ∃ before after, ready = before ++ t :: after ∧ t.name = name ∧ new = before ++ after

/-- `new` is `ready` with `t` in the place of the entry called `name`; the others keep their
places. -/
def Replaced (name : String) (t : Template) (ready new : List Template) : Prop :=
  ∃ before x after, ready = before ++ x :: after ∧ x.name = name ∧ new = before ++ t :: after

/-! ## Names -/

@[simp] theorem names_nil : Template.names [] = [] := rfl

@[simp] theorem names_append (a b : List Template) :
    Template.names (a ++ b) = Template.names a ++ Template.names b := List.map_append

@[simp] theorem names_cons (t : Template) (ts : List Template) :
    Template.names (t :: ts) = t.name :: Template.names ts := rfl

@[simp] theorem mem_names : name ∈ Template.names ready ↔ ∃ t ∈ ready, t.name = name := List.mem_map

/-! ## Appending a batch -/

theorem firstClash?_eq_none_iff :
    firstClash? taken names = none ↔ names.Nodup ∧ ∀ n ∈ names, n ∉ taken := by
  induction names generalizing taken with
  | nil => simp [firstClash?]
  | cons n rest ih =>
    unfold firstClash?
    split
    · next h =>
      have h : n ∈ taken := by simpa using h
      simp [h]
    · next h =>
      have h : n ∉ taken := by simpa using h
      rw [ih, List.nodup_cons]
      constructor
      · rintro ⟨hr, hn⟩
        refine ⟨⟨fun hm => hn n hm (by simp), hr⟩, ?_⟩
        rintro m (_ | ⟨_, hm⟩)
        · exact h
        · exact fun ht => hn m hm (by simp [ht])
      · rintro ⟨⟨hn, hr⟩, ht⟩
        refine ⟨hr, fun m hm => ?_⟩
        rintro (_ | ⟨_, hmt⟩)
        · exact hn hm
        · exact ht m (by simp [hm]) hmt

/-- `n` is the name at the smallest index `i` of a batch that is taken, or stands earlier in the
batch. -/
structure FirstClash (taken names : List String) (i : Nat) (n : String) : Prop where
  name : names[i]? = some n
  clashes : n ∈ taken ∨ n ∈ names.take i
  first : ∀ j m, j < i → names[j]? = some m → m ∉ taken ∧ m ∉ names.take j

theorem firstClash_zero {n m : String} : FirstClash taken (n :: names) 0 m ↔ n = m ∧ n ∈ taken := by
  constructor
  · rintro ⟨name, clashes, -⟩
    cases name
    exact ⟨rfl, by simpa using clashes⟩
  · rintro ⟨rfl, h⟩
    exact ⟨rfl, .inl h, by simp⟩

theorem firstClash_succ {i : Nat} {n m : String} :
    FirstClash taken (n :: names) (i + 1) m ↔ n ∉ taken ∧ FirstClash (n :: taken) names i m := by
  constructor
  · rintro ⟨name, clashes, first⟩
    refine ⟨(first 0 n (by omega) rfl).1, name, ?_, fun j k hj hk => ?_⟩
    · simpa [or_left_comm, or_assoc] using clashes
    · have := first (j + 1) k (by omega) hk
      simp only [List.take_succ_cons, List.mem_cons] at this ⊢
      tauto
  · rintro ⟨h, name, clashes, first⟩
    refine ⟨name, ?_, fun j k hj hk => ?_⟩
    · simpa [or_left_comm, or_assoc] using clashes
    · cases j with
      | zero =>
        cases hk
        exact ⟨h, by simp⟩
      | succ j =>
        have := first j k (by omega) hk
        simp only [List.take_succ_cons, List.mem_cons] at this ⊢
        tauto

theorem firstClash?_eq_some_iff {n : String} :
    firstClash? taken names = some n ↔ ∃ i, FirstClash taken names i n := by
  induction names generalizing taken with
  | nil =>
    constructor
    · intro h
      cases h
    · rintro ⟨i, name, -⟩
      simp at name
  | cons m rest ih =>
    have head_or_rest : (∃ i, FirstClash taken (m :: rest) i n) ↔
        (m = n ∧ m ∈ taken) ∨ (m ∉ taken ∧ ∃ i, FirstClash (m :: taken) rest i n) := by
      rw [← firstClash_zero, ← exists_and_left]
      simp only [← firstClash_succ]
      constructor
      · rintro ⟨i | i, h⟩
        · exact .inl h
        · exact .inr ⟨i, h⟩
      · rintro (h | ⟨i, h⟩)
        · exact ⟨0, h⟩
        · exact ⟨i + 1, h⟩
    rw [head_or_rest, firstClash?, ← ih]
    by_cases h : m ∈ taken <;> simp [h]

/-- A batch is refused exactly for the first of its names that clashes. -/
theorem append_eq_error_iff {r : Refusal} :
    append ready batch = .error r ↔
      ∃ i n, FirstClash (Template.names ready) (Template.names batch) i n ∧
        r = .duplicateProjectName n := by
  have some_iff : (∃ i n, FirstClash (Template.names ready) (Template.names batch) i n ∧
      r = .duplicateProjectName n) ↔
      ∃ n, firstClash? (Template.names ready) (Template.names batch) = some n ∧
        r = .duplicateProjectName n := by
    rw [exists_comm]
    simp only [exists_and_right, firstClash?_eq_some_iff]
  rw [some_iff, append]
  cases firstClash? (Template.names ready) (Template.names batch) with
  | none => simp
  | some n => simp [eq_comm]

/-- A batch is granted exactly if its names are new and distinct; it comes last, as a whole. -/
theorem append_eq_ok_iff :
    append ready batch = .ok new ↔
      (Template.names batch).Nodup ∧ (∀ n ∈ Template.names batch, n ∉ Template.names ready) ∧
        new = ready ++ batch := by
  unfold append
  split
  · next n h =>
    have hn : firstClash? (Template.names ready) (Template.names batch) ≠ none := by simp [h]
    rw [Ne, firstClash?_eq_none_iff] at hn
    constructor
    · intro h
      cases h
    · rintro ⟨hb, hr, -⟩
      exact absurd ⟨hb, hr⟩ hn
  · next h =>
    obtain ⟨hb, hr⟩ := firstClash?_eq_none_iff.1 h
    simp only [Except.ok.injEq]
    exact ⟨fun h => ⟨hb, hr, h.symm⟩, fun h => h.2.2.symm⟩

theorem Distinct.append (h : Distinct ready) (happ : append ready batch = .ok new) :
    Distinct new := by
  obtain ⟨hb, hr, rfl⟩ := append_eq_ok_iff.1 happ
  rw [Distinct, names_append]
  exact h.append hb fun n hn hm => hr n hm hn

/-! ## Replacing an entry -/

theorem isFree_iff :
    isFree ready name old = true ↔ ∀ x ∈ ready, x.name = name → x.name = old := by
  simp only [isFree, Bool.not_eq_true', List.any_eq_false, Bool.and_eq_true, bne_iff_ne,
    beq_iff_eq, not_and, ne_eq]
  exact forall₂_congr fun x _ => ⟨fun h hn => by_contra fun ho => h ho hn, fun h ho hn => ho (h hn)⟩

/-- A project may keep its name, or take one that is in nobody's use. -/
theorem isFree_iff_names :
    isFree ready name old = true ↔ name = old ∨ name ∉ Template.names ready := by
  rw [isFree_iff, mem_names]
  constructor
  · intro h
    by_cases taken : ∃ t ∈ ready, t.name = name
    · obtain ⟨t, ht, hn⟩ := taken
      exact .inl (hn.symm.trans (h t ht hn))
    · exact .inr taken
  · rintro (rfl | unused) x hx hn
    · exact hn
    · exact absurd ⟨x, hx, hn⟩ unused

theorem replaceFirst_eq_none_iff :
    replaceFirst old t ready = none ↔ old ∉ Template.names ready := by
  induction ready with
  | nil => simp [replaceFirst]
  | cons x rest ih =>
    rw [replaceFirst, names_cons, List.mem_cons]
    by_cases hx : x.name = old
    · simp [hx]
    · simp [hx, Ne.symm hx, ih]

theorem find?_eq_none_iff : find? ready name = none ↔ name ∉ Template.names ready := by
  simp [find?]

theorem replaced_of_replaceFirst (h : replaceFirst old t ready = some new) :
    Replaced old t ready new := by
  induction ready generalizing new with
  | nil => cases h
  | cons x rest ih =>
    unfold replaceFirst at h
    split at h
    · next hx =>
      cases h
      exact ⟨[], x, rest, rfl, eq_of_beq hx, rfl⟩
    · obtain ⟨rest', hr, rfl⟩ := Option.map_eq_some_iff.1 h
      obtain ⟨before, y, after, rfl, hy, rfl⟩ := ih hr
      exact ⟨x :: before, y, after, rfl, hy, rfl⟩

/-- A replacement is granted only if nobody else has the new name, and someone has the old. -/
theorem replace_eq_ok (h : replace ready old t = .ok new) :
    isFree ready t.name old = true ∧ Replaced old t ready new := by
  unfold replace at h
  split at h
  · next hf =>
    split at h
    · next r hr =>
      cases h
      exact ⟨hf, replaced_of_replaceFirst hr⟩
    · cases h
  · cases h

theorem Replaced.mem_names (h : Replaced name t ready new) : t.name ∈ Template.names new := by
  obtain ⟨before, x, after, -, -, rfl⟩ := h
  simp

theorem Replaced.names_subset (h : Replaced name t ready new) {other : String}
    (hn : other ∈ Template.names new) : other = t.name ∨ other ∈ Template.names ready := by
  obtain ⟨before, x, after, rfl, -, rfl⟩ := h
  simp only [names_append, names_cons, List.mem_append, List.mem_cons] at hn ⊢
  tauto

/-- Where names are distinct, the entry that is replaced stands at the position of its name. -/
theorem Replaced.eq_set (h : Replaced name t ready new) (distinct : Distinct ready) :
    ∃ x, x.name = name ∧ ready[(Template.names ready).idxOf name]? = some x ∧
      new = ready.set ((Template.names ready).idxOf name) t := by
  obtain ⟨before, x, after, rfl, rfl, rfl⟩ := h
  rw [Distinct, names_append, names_cons, List.nodup_append] at distinct
  have first : x.name ∉ Template.names before :=
    fun earlier => distinct.2.2 _ earlier _ List.mem_cons_self rfl
  have position : (Template.names (before ++ x :: after)).idxOf x.name = before.length := by
    rw [names_append, names_cons, List.idxOf_append_of_notMem first, List.idxOf_cons_self,
      Nat.add_zero, Template.names, List.length_map]
  rw [position]
  exact ⟨x, rfl, by simp, by simp⟩

/-- Where names are distinct, no other entry has the name of the one that is replaced. -/
theorem Replaced.sole (h : Replaced name t ready new) (distinct : Distinct ready) :
    ∃ before x after, ready = before ++ x :: after ∧ x.name = name ∧
      (∀ u ∈ before ++ after, u.name ≠ name) ∧ new = before ++ t :: after := by
  obtain ⟨before, x, after, rfl, rfl, rfl⟩ := h
  refine ⟨before, x, after, rfl, rfl, fun u hu same => ?_, rfl⟩
  rw [Distinct, names_append, names_cons] at distinct
  have apart := (List.nodup_cons.1 (List.nodup_middle.1 distinct)).1
  rw [← names_append] at apart
  exact apart (ReadyList.mem_names.2 ⟨u, hu, same⟩)

/-- That nobody else has the new name suffices only because names were distinct before. -/
theorem Distinct.replace (h : Distinct ready) (hrep : replace ready old t = .ok new) :
    Distinct new := by
  obtain ⟨hf, before, x, after, rfl, rfl, rfl⟩ := replace_eq_ok hrep
  rw [isFree_iff] at hf
  simp only [Distinct, names_append, names_cons] at h ⊢
  have hx := List.nodup_middle.1 h
  rw [List.nodup_cons] at hx
  refine List.nodup_middle.2 (List.nodup_cons.2 ⟨fun ht => ?_, hx.2⟩)
  -- An entry of the new name has the old one as well, and there was only one of those.
  rw [← names_append, mem_names] at ht
  obtain ⟨y, hy, hty⟩ := ht
  have hold : y.name = x.name := hf y (by grind) hty
  refine hx.1 ?_
  rw [← names_append, mem_names]
  exact ⟨y, hy, hold⟩

/-- A project is found by its name, as no other has it. -/
theorem find?_of_mem (h : Distinct ready) (ht : t ∈ ready) : find? ready t.name = some t := by
  induction ready with
  | nil => cases ht
  | cons x rest ih =>
    rw [Distinct, names_cons, List.nodup_cons] at h
    rw [find?, List.find?_cons]
    obtain rfl | ht := List.mem_cons.1 ht
    · rw [beq_self_eq_true]
    · have other : (x.name == t.name) = false :=
        beq_false_of_ne fun same => h.1 (same ▸ List.mem_map_of_mem ht)
      rw [other]
      exact ih h.2 ht

theorem replaceFirst_self (h : Distinct ready) (ht : t ∈ ready) :
    replaceFirst t.name t ready = some ready := by
  induction ready with
  | nil => cases ht
  | cons x rest ih =>
    rw [Distinct, names_cons, List.nodup_cons] at h
    rw [replaceFirst]
    obtain rfl | ht := List.mem_cons.1 ht
    · rw [if_pos (beq_self_eq_true _)]
    · have other : ¬ (x.name == t.name) = true :=
        fun same => h.1 (eq_of_beq same ▸ List.mem_map_of_mem ht)
      rw [if_neg other, ih h.2 ht, Option.map_some]

/-- Putting a project in its own place is granted and changes nothing. -/
theorem replace_self (h : Distinct ready) (ht : t ∈ ready) :
    replace ready t.name t = .ok ready := by
  rw [replace, if_pos (isFree_iff.2 fun _ _ same => same), replaceFirst_self h ht]

/-! ## Removing an entry -/

theorem removed_of_removeFirst (h : removeFirst name ready = some (t, new)) :
    Removed name t ready new := by
  induction ready generalizing new with
  | nil => cases h
  | cons x rest ih =>
    unfold removeFirst at h
    split at h
    · next hx =>
      cases h
      exact ⟨[], rest, rfl, eq_of_beq hx, rfl⟩
    · obtain ⟨⟨u, rest'⟩, hr, he⟩ := Option.map_eq_some_iff.1 h
      cases he
      obtain ⟨before, after, rfl, hy, rfl⟩ := ih hr
      exact ⟨x :: before, after, rfl, hy, rfl⟩

theorem remove_eq_ok (h : remove ready name = .ok (t, new)) : Removed name t ready new := by
  unfold remove at h
  split at h
  · next r hr =>
    cases h
    exact removed_of_removeFirst hr
  · cases h

theorem Distinct.removed (h : Distinct ready) (hrem : Removed name t ready new) :
    Distinct new := by
  obtain ⟨before, after, rfl, -, rfl⟩ := hrem
  exact h.sublist (((List.sublist_cons_self t after).append_left before).map _)

/-! ## Changes -/

/-- A granted change of the ready list. -/
inductive Change : List Template → List Template → Prop
  | append {ready batch new : List Template} (granted : append ready batch = .ok new) :
      Change ready new
  | replace {ready new : List Template} {old : String} {t : Template}
      (granted : replace ready old t = .ok new) : Change ready new
  | remove {ready new : List Template} {name : String} {t : Template}
      (granted : remove ready name = .ok (t, new)) : Change ready new

abbrev Changes : List Template → List Template → Prop := Relation.ReflTransGen Change

theorem Distinct.change (h : Distinct ready) (hc : Change ready new) : Distinct new := by
  cases hc with
  | append granted => exact h.append granted
  | replace granted => exact h.replace granted
  | remove granted => exact h.removed (remove_eq_ok granted)

theorem Distinct.changes (h : Distinct ready) (hc : Changes ready new) : Distinct new := by
  induction hc with
  | refl => exact h
  | tail _ hc ih => exact ih.change hc

end ProjectPicker.ReadyList
