import ProjectPicker.Proofs.ReadyList
import ProjectPicker.Selector

/-!
# The check boxes of the template selector

* `Checks.hasBox_put`, `Checks.isChecked_put`, `Checks.hasBox_relist`, `Checks.isChecked_relist` :
  boxes after a change;
* `Selector.Consistent` : there is a box for each listed name, and it is checked exactly if a
  template of that name is selected;
* `Consistent.filter`, `Consistent.fetched`, `Consistent.stackChanged`, `Consistent.click`,
  `Consistent.added` : whatever happens to a selector keeps it consistent;
* `Selector.Counted` : the count shown is the number of listed templates that are checked. All but
  `Selector.fetched` keep it so (`Consistent.counted_fetched`);
* `Selector.Follows`, `Selector.Narrowed` : the tags are those of the active stack, and what is
  listed are the templates that carry one of them, if there are any tags.
-/

set_option autoImplicit false

namespace ProjectPicker

namespace Checks

variable {c : Checks} {name other : String} {names : List String} {checked : Bool}

def keys (c : Checks) : List String := c.map Prod.fst

theorem hasBox_iff : c.hasBox name = true ↔ name ∈ c.keys := by
  simp [hasBox, keys]

theorem isChecked_iff : c.isChecked name = true ↔ (name, true) ∈ c := by
  simp [isChecked]

theorem hasBox_of_isChecked (h : c.isChecked name = true) : c.hasBox name = true :=
  hasBox_iff.2 (List.mem_map_of_mem (isChecked_iff.1 h))

@[simp] theorem keys_put : (c.put name checked).keys = c.keys := by
  simp only [keys, put, List.map_map]
  refine List.map_congr_left fun box _ => ?_
  by_cases h : box.1 = name <;> simp [h]

@[simp] theorem hasBox_put : (c.put name checked).hasBox other = c.hasBox other := by
  rw [Bool.eq_iff_iff, hasBox_iff, hasBox_iff, keys_put]

theorem isChecked_put :
    (c.put name checked).isChecked other =
      if other = name then c.hasBox name && checked else c.isChecked other := by
  rw [Bool.eq_iff_iff, isChecked_iff, put, List.mem_map]
  split
  · next same =>
    subst same
    rw [Bool.and_eq_true, hasBox_iff]
    constructor
    · rintro ⟨box, hb, changed⟩
      by_cases here : box.1 = other
      · rw [if_pos (beq_iff_eq.2 here)] at changed
        exact ⟨here ▸ List.mem_map_of_mem hb, congrArg Prod.snd changed⟩
      · rw [if_neg (mt eq_of_beq here)] at changed
        exact absurd (congrArg Prod.fst changed) here
    · rintro ⟨has, rfl⟩
      obtain ⟨box, hb, here⟩ := List.mem_map.1 has
      exact ⟨box, hb, if_pos (beq_iff_eq.2 here)⟩
  · next differs =>
    rw [isChecked_iff]
    constructor
    · rintro ⟨box, hb, changed⟩
      split at changed
      · exact absurd (congrArg Prod.fst changed).symm differs
      · rwa [← changed]
    · intro hb
      exact ⟨(other, true), hb, if_neg (mt eq_of_beq differs)⟩

theorem keys_relist : (c.relist names).keys = names.eraseDups := by
  simp [keys, relist, Function.comp_def]

@[simp] theorem hasBox_relist : (c.relist names).hasBox name = true ↔ name ∈ names := by
  rw [hasBox_iff, keys_relist, List.mem_eraseDups]

theorem isChecked_relist :
    (c.relist names).isChecked name = true ↔ name ∈ names ∧ c.isChecked name = true := by
  rw [isChecked_iff, relist, List.mem_map]
  constructor
  · rintro ⟨n, hn, he⟩
    obtain ⟨rfl, hc⟩ := Prod.mk.inj he
    exact ⟨List.mem_eraseDups.1 hn, hc⟩
  · rintro ⟨hn, hc⟩
    exact ⟨name, List.mem_eraseDups.2 hn, by rw [hc]⟩

abbrev putAll (names : List String) (c : Checks) : Checks :=
  names.foldl (fun c name => c.put name true) c

@[simp] theorem keys_putAll : (putAll names c).keys = c.keys := by
  induction names generalizing c with
  | nil => rfl
  | cons name rest ih => exact ih.trans keys_put

theorem isChecked_putAll :
    (putAll names c).isChecked name = true ↔
      c.isChecked name = true ∨ (c.hasBox name = true ∧ name ∈ names) := by
  induction names generalizing c with
  | nil => simp [putAll]
  | cons n rest ih =>
    refine (ih (c := c.put n true)).trans ?_
    rw [isChecked_put, hasBox_put]
    by_cases h : name = n
    · subst h
      simp only [if_true, Bool.and_true, List.mem_cons, true_or, and_true]
      constructor
      · rintro (has | ⟨has, -⟩)
        · exact .inr has
        · exact .inr has
      · rintro (checked | has)
        · exact .inl (hasBox_of_isChecked checked)
        · exact .inl has
    · simp [h]

end Checks

namespace Selector

variable {s : Selector} {b : Board} {name : String} {checked : Bool}

/-- There is a box for each listed name and for no other, each once, and it is checked exactly if
a template of that name is selected. -/
structure Consistent (s : Selector) : Prop where
  keys : s.checks.keys = (Template.names s.listed).eraseDups
  checked : ∀ name, s.isChecked name = true ↔
    name ∈ Template.names s.listed ∧ name ∈ Template.names s.selected

theorem Consistent.hasBox_iff (h : s.Consistent) :
    s.checks.hasBox name = true ↔ name ∈ Template.names s.listed := by
  rw [Checks.hasBox_iff, h.keys, List.mem_eraseDups]

theorem Consistent.recount (h : s.Consistent) : s.recount.Consistent := ⟨h.keys, h.checked⟩

theorem Consistent.filter (h : ∀ name, s.isChecked name = true → name ∈ Template.names s.selected) :
    s.filter.Consistent where
  keys := by
    rw [Selector.filter]
    exact Checks.keys_putAll.trans Checks.keys_relist
  checked name := by
    simp only [Selector.filter, isChecked]
    rw [Checks.isChecked_putAll, Checks.isChecked_relist, Checks.hasBox_relist]
    constructor
    · rintro (⟨listed, checked⟩ | both)
      · exact ⟨listed, h name checked⟩
      · exact both
    · exact .inr

theorem Consistent.fetched (h : s.Consistent) (b : Board) : (s.fetched b).Consistent :=
  .filter fun name hn => ((h.checked name).1 hn).2

theorem Consistent.stackChanged (h : s.Consistent) (b : Board) : (s.stackChanged b).Consistent := by
  unfold Selector.stackChanged
  split
  · exact h
  · refine Consistent.recount (Consistent.filter fun name hn => ?_)
    exact ((h.checked name).1 hn).2

/-- A selector that joins is consistent, whatever is selected already. -/
theorem consistent_attach (b : Board) : (attach b).Consistent := by
  have empty : ({ selected := b.chosen } : Selector).Consistent :=
    ⟨rfl, fun name => by simp [isChecked, Checks.isChecked]⟩
  exact empty.stackChanged b

/-- A click selects what is checked in the list, and nothing hidden. -/
theorem Consistent.click (h : s.Consistent) (name : String) (checked : Bool) (b : Board) :
    (s.click name checked b).1.Consistent where
  keys := Checks.keys_put.trans h.keys
  checked other := by
    have listed : (s.checks.put name checked).isChecked other = true →
        other ∈ Template.names s.listed := by
      intro hc
      have := Checks.hasBox_of_isChecked hc
      rwa [Checks.hasBox_put, h.hasBox_iff] at this
    simp only [Selector.click, select, Selector.recount, checkedTemplates, isChecked,
      ReadyList.mem_names, List.mem_filter] at listed ⊢
    constructor
    · intro hc
      obtain ⟨t, ht, rfl⟩ := listed hc
      exact ⟨⟨t, ht, rfl⟩, t, ⟨ht, hc⟩, rfl⟩
    · rintro ⟨-, t, ⟨-, hc⟩, rfl⟩
      exact hc

/-- A click leaves those listed templates selected whose name was selected, except that it decides
on the ones whose box was clicked. -/
theorem Consistent.click_selected (h : s.Consistent) (name : String) (checked : Bool) (b : Board) :
    (s.click name checked b).1.selected =
      s.listed.filter fun t =>
        if t.name = name then checked else (Template.names s.selected).contains t.name := by
  refine List.filter_congr fun t ht => ?_
  have listed : t.name ∈ Template.names s.listed := List.mem_map_of_mem ht
  change (s.checks.put name checked).isChecked t.name = _
  rw [Checks.isChecked_put]
  split
  · next clicked => rw [h.hasBox_iff.2 (clicked ▸ listed), Bool.true_and]
  · have := h.checked t.name
    rw [Bool.eq_iff_iff, List.contains_iff_mem]
    exact this.trans (and_iff_right listed)

theorem Consistent.added (h : s.Consistent) (name : String) (b : Board) :
    (s.added name b).1.Consistent := by
  unfold Selector.added
  split
  · refine ⟨Checks.keys_put.trans h.keys, fun other => ?_⟩
    have hc := h.checked other
    simp only [select, Selector.recount, isChecked, ReadyList.mem_names, List.mem_filter] at hc ⊢
    rw [Checks.isChecked_put]
    split
    · next same =>
      rw [Bool.and_false]
      constructor
      · intro never
        cases never
      · rintro ⟨-, t, ⟨-, other⟩, rfl⟩
        exact absurd same (bne_iff_ne.1 other)
    · next differs =>
      refine hc.trans (and_congr_right fun _ => ⟨?_, ?_⟩)
      · rintro ⟨t, ht, rfl⟩
        exact ⟨t, ⟨ht, bne_iff_ne.2 differs⟩, rfl⟩
      · rintro ⟨t, ⟨ht, -⟩, rfl⟩
        exact ⟨t, ht, rfl⟩
  · exact h

/-! ## The count -/

/-- The count shown is the number of listed templates that are checked. -/
def Counted (s : Selector) : Prop := s.count = s.checkedTemplates.length

theorem counted_recount (s : Selector) : s.recount.Counted := rfl

/-- Counting anew changes nothing exactly if the count was right. -/
theorem recount_eq_self_iff : s.recount = s ↔ s.Counted := by
  constructor
  · intro same
    exact (congrArg Selector.count same).symm
  · intro counted
    rw [Selector.recount, ← counted]

theorem counted_click (s : Selector) (name : String) (checked : Bool) (b : Board) :
    (s.click name checked b).1.Counted := counted_recount _

/-- A stack that becomes active counts anew, whatever was counted before. -/
theorem counted_stackChanged {id : String} (h : b.activeStack = some id) (s : Selector) :
    (s.stackChanged b).Counted := by
  simp only [Selector.stackChanged, h]
  exact counted_recount _

theorem Counted.stackChanged (h : s.Counted) (b : Board) : (s.stackChanged b).Counted := by
  cases ha : b.activeStack with
  | none => simpa only [Selector.stackChanged, ha] using h
  | some id => exact counted_stackChanged ha s

theorem Counted.added (h : s.Counted) (name : String) (b : Board) :
    (s.added name b).1.Counted := by
  unfold Selector.added
  split
  · exact counted_recount _
  · exact h

/-- The templates of a list that carry the name of a selected one. -/
def selectedIn (s : Selector) (templates : List Template) : List Template :=
  templates.filter fun t => (Template.names s.selected).contains t.name

theorem Consistent.checkedTemplates (h : s.Consistent) :
    s.checkedTemplates = s.selectedIn s.listed := by
  refine List.filter_congr fun t ht => ?_
  rw [Bool.eq_iff_iff, h.checked, List.contains_iff_mem]
  exact and_iff_right (List.mem_map_of_mem ht)

def relisted (s : Selector) (catalogue : List Template) : List Template :=
  if s.stackTags.isEmpty then s.listed else (Template.sort catalogue).filter (·.hasTag s.stackTags)

/-- Fetching lists and checks anew, but does not count. -/
theorem Consistent.counted_fetched (h : s.Consistent) (b : Board) :
    (s.fetched b).Counted ↔ s.count = (s.selectedIn (s.relisted b.catalogue)).length := by
  rw [Counted, (h.fetched b).checkedTemplates]
  rfl

/-! ## The active stack -/

/-- A selector with these tags goes by the active stack, if there is one. -/
def Follows (b : Board) (stackTags : List String) : Prop :=
  ∀ id, b.activeStack = some id → stackTags = Stack.activeTags b.stackList id

/-- Whoever is told that the stack changed looks which one is active, so it goes by that one however
late it is told. -/
theorem follows_stackChanged (b : Board) (s : Selector) :
    Follows b (s.stackChanged b).stackTags := by
  intro id active
  rw [Selector.stackChanged, active]
  rfl

theorem follows_attach (b : Board) : Follows b (attach b).stackTags := follows_stackChanged b _

/-- If there are tags, those templates are listed that carry one of them. -/
def Narrowed (s : Selector) : Prop :=
  s.stackTags ≠ [] → s.listed = s.all.filter (·.hasTag s.stackTags)

theorem narrowed_filter (s : Selector) : s.filter.Narrowed := by
  intro tagged
  exact if_neg (mt List.isEmpty_iff.1 tagged)

theorem narrowed_fetched (b : Board) (s : Selector) : (s.fetched b).Narrowed :=
  narrowed_filter { s with all := Template.sort b.catalogue }

theorem Narrowed.stackChanged (h : s.Narrowed) (b : Board) : (s.stackChanged b).Narrowed := by
  cases active : b.activeStack with
  | none => rwa [Selector.stackChanged, active]
  | some id =>
    rw [Selector.stackChanged, active]
    have listed := narrowed_filter { s with stackTags := Stack.activeTags b.stackList id }
    exact listed

theorem narrowed_attach (b : Board) : (attach b).Narrowed :=
  Narrowed.stackChanged (fun tagged => absurd rfl tagged) b

theorem Narrowed.added (h : s.Narrowed) (name : String) (b : Board) :
    (s.added name b).1.Narrowed := by
  unfold Selector.added
  split <;> exact h

@[simp] theorem added_stackTags (s : Selector) (name : String) (b : Board) :
    (s.added name b).1.stackTags = s.stackTags := by
  rw [Selector.added]
  split <;> rfl

end Selector

end ProjectPicker
