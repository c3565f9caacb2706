import ProjectPicker.Proofs.Session.Announcements
import ProjectPicker.Proofs.Session.Count

/-!
# Imports and the selection they come from

* `announce_counts` : an announcement that concerns the selector counts anew, whatever was counted
  before;
* `announceAll_deselects` : when all selected names are announced, nothing stays selected or
  checked, and the count is none;
* `import_empties_selection` : in every session that a run leads to, an import of the selected
  templates leaves nothing selected, hidden or not, so that another one has nothing to import.
-/

set_option autoImplicit false

namespace ProjectPicker.Session

variable {ε : Type} {s s' : Session} {name : String} {names : List String}

/-- Where nothing is selected, no box is checked. -/
theorem InStep.unchecked (h : InStep s) (none : s.board.chosen = []) (name : String) :
    s.selector.isChecked name = false := by
  rw [← Bool.not_eq_true, h.consistent.checked, h.selected, none]
  simp

/-- A selector that has to do with a project counts anew once it was added. -/
theorem announce_counts (wired : Wired s.channel) (h : s.selector.concerns name = true) :
    (s.announce name).2.selector.Counted := by
  rw [announced wired]
  dsimp only
  rw [Selector.added, if_pos h]
  exact Selector.counted_recount _

/-- The first name announced is that of a selected template, so the count is right from then on,
even if a fetch had spoilt it. -/
theorem announceAll_counts (wired : Wired s.channel) (inStep : InStep s)
    (chosen : s.board.chosen ≠ []) :
    (s.announceAll (Template.names s.board.chosen)).selector.Counted := by
  obtain ⟨t, rest, hc⟩ := List.exists_cons_of_ne_nil chosen
  have concerns : s.selector.concerns t.name = true := by
    simp [Selector.concerns, inStep.selected, hc]
  obtain ⟨wired', inStep'⟩ := stable_inStep.announce s t.name ⟨wired, inStep⟩
  rw [hc]
  exact announceAll_counted (s := (s.announce t.name).2) wired' inStep'
    (announce_counts wired concerns)

/-- When the names of all selected templates are announced, hidden or not, none stays selected. -/
theorem announceAll_deselects (wired : Wired s.channel) (inStep : InStep s)
    (chosen : s.board.chosen ≠ []) :
    let s' := s.announceAll (Template.names s.board.chosen)
    s'.board.chosen = [] ∧ s'.selector.selected = [] ∧
      (∀ name, s'.selector.isChecked name = false) ∧ s'.selector.count = 0 := by
  intro s'
  have inStep' : InStep s' := (stable_inStep.announceAll ⟨wired, inStep⟩).2
  have none : s'.board.chosen = [] := by
    rw [announceAll_chosen wired inStep, List.filter_eq_nil_iff]
    intro t ht
    have announced : t.name ∈ Template.names s.board.chosen := List.mem_map_of_mem ht
    simpa using announced
  have unchecked : ∀ name, s'.selector.isChecked name = false := inStep'.unchecked none
  have counted : s'.selector.Counted := announceAll_counts wired inStep chosen
  refine ⟨none, inStep'.selected.trans none, unchecked, ?_⟩
  rw [counted, Selector.checkedTemplates]
  simp [unchecked]

/-- In every session that a run leads to, an import of the selected templates appends all of them to
the ready list, also those that the active stack hides or that are in the catalogue no longer.
Nothing is selected any more afterwards, neither on the board nor in the view, no listed box is
checked and none is counted, and another import is refused because nothing is selected. -/
theorem import_empties_selection (stackList : List Stack) (ops : List (Operation ε)) :
    let s := (start stackList).run ops
    ∀ names s', (add .templates).run s = .ok names s' →
      (names = Template.names s.board.chosen ∧
          s'.board.ready = s.board.ready ++ s.board.chosen) ∧
        (s'.board.chosen = [] ∧ s'.selector.selected = []) ∧
        (∀ t ∈ s'.selector.listed, s'.selector.isChecked t.name = false) ∧
        s'.selector.count = 0 ∧
        (add .templates).run s' = .error .noTemplatesSelected s' := by
  intro s names s' h
  obtain ⟨wired, inStep⟩ : Wired s.channel ∧ InStep s := run_inStep stackList ops
  obtain ⟨batch, hb, rfl, -, hs⟩ := add_eq_ok h
  obtain ⟨chosen, rfl⟩ := Board.candidates_templates_eq_ok.1 hb
  have appended : InStep (s.appended s.board.chosen) := inStep.appended s.board.chosen
  obtain ⟨none, selected, unchecked, count⟩ :=
    announceAll_deselects (s := s.appended s.board.chosen) wired appended chosen
  rw [← hs] at none selected unchecked count
  have ready : s'.board.ready = s.board.ready ++ s.board.chosen := by
    rw [hs]
    exact announceAll_ready (s := s.appended s.board.chosen) wired appended
  exact ⟨⟨rfl, ready⟩, ⟨none, selected⟩, fun t _ => unchecked t.name, count,
    add_eq_error (Board.takeIn_nothing none)⟩

/-- The template selected last is listed no longer, and counted all the same. -/
theorem import_empties_outdated :
    (outdated.selector.count = 1 ∧ outdated.selector.listed = []) ∧
      ∃ s', (add .templates).run outdated = .ok ["a"] s' ∧ s'.board.chosen = [] ∧
        s'.selector.count = 0 ∧ (add .templates).run s' = .error .noTemplatesSelected s' := by
  have chosen : outdated.board.chosen = [{ name := "a", tags := ["x"] }] := by decide +kernel
  have ready : outdated.board.ready = [] := by decide +kernel
  have candidates : outdated.board.candidates .templates = .ok outdated.board.chosen :=
    Board.candidates_templates_eq_ok.2 ⟨by simp [chosen], rfl⟩
  have fresh : ReadyList.append outdated.board.ready outdated.board.chosen =
      .ok outdated.board.chosen := by
    rw [ready, chosen]
    rfl
  have granted := add_granted candidates fresh
  have names : Template.names outdated.board.chosen = ["a"] := by
    rw [chosen]
    rfl
  rw [names] at granted
  obtain ⟨-, ⟨none, -⟩, -, count, again⟩ := import_empties_selection [⟨"s", "", ["x"]⟩]
    [(.load (.ok [{ name := "a", tags := ["x"] }]) : Operation Empty), .selectStack (some "s"),
      .toggle "a" true, .load (.ok [])] _ _ granted
  exact ⟨⟨by decide +kernel, by decide +kernel⟩, _, granted, none, count, again⟩

end ProjectPicker.Session
