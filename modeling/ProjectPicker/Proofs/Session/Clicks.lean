import ProjectPicker.Proofs.Session.Mirrors

/-!
# What a click does to the other templates

* `toggle_chosen` : what is selected after a click;
* `click_spares_others_iff` : a click leaves the selection of all other templates alone exactly if
  it was nothing but what is listed: a click forgets what is selected but hidden by the active
  stack, or no longer in the catalogue. A click on a name that is not listed does the same.
-/

set_option autoImplicit false

namespace ProjectPicker.Session

variable {ε : Type} {s : Session} {name : String} {checked : Bool} {t : Template}

/-- After a click the listed templates are selected whose name was selected, except that the click
decides on those of the name clicked. -/
theorem toggle_chosen (h : InStep s) (name : String) (checked : Bool) :
    (s.toggle name checked).board.chosen =
      s.selector.listed.filter fun t =>
        if t.name = name then checked else (Template.names s.board.chosen).contains t.name := by
  rw [← h.selected]
  exact h.consistent.click_selected name checked s.board

theorem mem_toggle_chosen (h : InStep s) (other : t.name ≠ name) :
    t ∈ (s.toggle name checked).board.chosen ↔
      t ∈ s.selector.listed ∧ t.name ∈ Template.names s.board.chosen := by
  rw [toggle_chosen h, List.mem_filter, if_neg other, List.contains_iff_mem]

theorem mem_names_toggle_chosen (h : InStep s) {name other : String} {checked : Bool} :
    other ∈ Template.names (s.toggle name checked).board.chosen ↔
      other ∈ Template.names s.selector.listed ∧
        if other = name then checked = true else other ∈ Template.names s.board.chosen := by
  have decides : ∀ t : Template, t.name = other →
      ((if t.name = name then checked else (Template.names s.board.chosen).contains t.name) = true ↔
        if other = name then checked = true else other ∈ Template.names s.board.chosen) := by
    rintro t rfl
    split
    · rfl
    · exact List.contains_iff_mem
  rw [toggle_chosen h]
  constructor
  · intro hm
    obtain ⟨t, ht, rfl⟩ := ReadyList.mem_names.1 hm
    obtain ⟨listed, hc⟩ := List.mem_filter.1 ht
    exact ⟨List.mem_map_of_mem listed, (decides t rfl).1 hc⟩
  · rintro ⟨hm, hc⟩
    obtain ⟨t, listed, rfl⟩ := ReadyList.mem_names.1 hm
    exact List.mem_map_of_mem (List.mem_filter.2 ⟨listed, (decides t rfl).2 hc⟩)

/-- A click on a name that is not listed selects just what is listed and was selected. -/
theorem toggle_unlisted (h : InStep s) (hn : name ∉ Template.names s.selector.listed) :
    (s.toggle name checked).board.chosen = s.selector.selectedIn s.selector.listed := by
  rw [toggle_chosen h, Selector.selectedIn, h.selected]
  refine List.filter_congr fun t ht => ?_
  have other : t.name ≠ name := by
    rintro rfl
    exact hn (List.mem_map_of_mem ht)
  rw [if_neg other]

theorem toggle_unlisted_count (h : InStep s) (hn : name ∉ Template.names s.selector.listed) :
    (s.toggle name checked).selector.count = (s.selector.selectedIn s.selector.listed).length := by
  have counted : (s.toggle name checked).selector.Counted :=
    s.selector.counted_click name checked s.board
  have same : (s.toggle name checked).selector.checkedTemplates =
      (s.toggle name checked).board.chosen := rfl
  rw [counted, same, toggle_unlisted h hn]

/-- In every session that a run leads to, a click selects those listed templates whose name was
selected, and decides on those of the name clicked. So it leaves the selection of all others alone,
and with a name that is not listed the whole selection and its count, exactly if of the others those
were selected that are listed under a selected name, and the count was right. -/
theorem click_spares_others_iff (stackList : List Stack) (ops : List (Operation ε)) (name : String)
    (checked : Bool) :
    let s := (start stackList).run ops
    let s' := s.toggle name checked
    s'.board.chosen = (s.selector.listed.filter fun t =>
        if t.name = name then checked else (Template.names s.board.chosen).contains t.name) ∧
      ((∀ t, t.name ≠ name → (t ∈ s'.board.chosen ↔ t ∈ s.board.chosen)) ∧
          (name ∉ Template.names s.selector.listed →
            s'.board.chosen = s.board.chosen ∧ s'.selector.count = s.selector.count) ↔
        (∀ t, t.name ≠ name → (t ∈ s.board.chosen ↔
            t ∈ s.selector.listed ∧ t.name ∈ Template.names s.board.chosen)) ∧
          (name ∉ Template.names s.selector.listed →
            s.board.chosen = s.selector.selectedIn s.selector.listed ∧ s.selector.Counted)) := by
  intro s s'
  obtain ⟨-, inStep⟩ : _ ∧ InStep s := run_inStep stackList ops
  refine ⟨toggle_chosen inStep name checked, and_congr ?_ ?_⟩
  · refine forall₂_congr fun t other => ?_
    rw [mem_toggle_chosen inStep other]
    exact iff_comm
  · refine forall_congr' fun hn => ?_
    rw [toggle_unlisted inStep hn, toggle_unlisted_count inStep hn, Selector.Counted,
      inStep.consistent.checkedTemplates]
    exact and_congr eq_comm eq_comm

/-- Two stacks with a template each. One stack is active, and its template is selected. -/
def facing : Session :=
  (start [⟨"s", "", ["x"]⟩, ⟨"t", "", ["y"]⟩]).run
    [(.load (.ok [{ name := "a", tags := ["x"] }, { name := "b", tags := ["y"] }]) :
      Operation Empty), .selectStack (some "s"), .toggle "a" true]

theorem facing_chosen : facing.board.chosen = [{ name := "a", tags := ["x"] }] := by
  rw [facing, run_load_ordered (by decide)]
  decide +kernel

theorem facing_selector :
    facing.selector =
      { stackTags := ["x"]
        all := [{ name := "a", tags := ["x"] }, { name := "b", tags := ["y"] }]
        listed := [{ name := "a", tags := ["x"] }]
        checks := [("a", true)]
        selected := [{ name := "a", tags := ["x"] }]
        count := 1 } := by
  rw [facing, run_load_ordered (by decide)]
  decide +kernel

theorem click_spares_others_facing :
    (∀ t, t.name ≠ "c" →
        (t ∈ (facing.toggle "c" true).board.chosen ↔ t ∈ facing.board.chosen)) ∧
      (facing.toggle "c" true).board.chosen = facing.board.chosen := by
  obtain ⟨-, inStep⟩ : _ ∧ InStep facing := run_inStep _ _
  obtain ⟨-, spares⟩ := click_spares_others_iff [⟨"s", "", ["x"]⟩, ⟨"t", "", ["y"]⟩]
    [(.load (.ok [{ name := "a", tags := ["x"] }, { name := "b", tags := ["y"] }]) :
      Operation Empty), .selectStack (some "s"), .toggle "a" true] "c" true
  have listed : facing.selector.listed = [{ name := "a", tags := ["x"] }] := by
    rw [facing_selector]
  have unlisted : "c" ∉ Template.names facing.selector.listed := by
    rw [listed]
    decide
  have nothing_hidden : ∀ t, t ∈ facing.board.chosen ↔
      t ∈ facing.selector.listed ∧ t.name ∈ Template.names facing.board.chosen := by
    intro t
    rw [facing_chosen, listed]
    simp +contextual
  have all : facing.board.chosen = facing.selector.selectedIn facing.selector.listed := by
    rw [Selector.selectedIn, inStep.selected, facing_chosen, listed]
    rfl
  obtain ⟨spared, unchanged⟩ := spares.2 ⟨fun t _ => nothing_hidden t, fun _ => ⟨all, rfl⟩⟩
  exact ⟨spared, (unchanged unlisted).1⟩

/-- The same, after the other stack has become active. -/
def turnedAway : Session := facing.run [(.selectStack (some "t") : Operation Empty)]

/-- A click on what is listed, and one on what is not, each forget a template that is hidden. -/
theorem click_forgets_hidden :
    let a : Template := { name := "a", tags := ["x"] }
    (a ∈ turnedAway.board.chosen ∧ a ∉ (turnedAway.toggle "b" true).board.chosen) ∧
      "c" ∉ Template.names turnedAway.selector.listed ∧
      a ∉ (turnedAway.toggle "c" true).board.chosen := by
  intro a
  obtain ⟨-, inStep⟩ : _ ∧ InStep turnedAway := stable_inStep.run _ (run_inStep _ _)
  have selected : a ∈ turnedAway.board.chosen := by
    have same : turnedAway.board.chosen = facing.board.chosen := rfl
    rw [same, facing_chosen]
    exact List.mem_singleton_self a
  have listed : turnedAway.selector.listed = [{ name := "b", tags := ["y"] }] := by
    rw [turnedAway, facing, run_load_ordered (by decide)]
    decide +kernel
  have hidden : a ∉ turnedAway.selector.listed := by
    rw [listed]
    decide
  refine ⟨⟨selected, fun h => hidden ?_⟩, by rw [listed]; decide, fun h => hidden ?_⟩
  · exact ((mem_toggle_chosen inStep (by decide)).1 h).1
  · exact ((mem_toggle_chosen inStep (by decide)).1 h).1

end ProjectPicker.Session
