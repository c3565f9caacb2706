import ProjectPicker.Proofs.Session.Clicks
import ProjectPicker.Proofs.Session.Effects

/-!
# What is selected and what is imported

* `SelectsNew` : no template is selected whose name a project has;
* `Collides` : a box is checked whose name a project has, or a project is written under the name of
  a selected template;
* `selectsNew_operate_iff` : those operations spoil `SelectsNew`, and no others. An import does not,
  for what it imports is announced and is then selected no longer;
* `click_after_add` : a click on what was just imported does spoil it;
* `selection_new_iff` : so along a run nothing is selected that was imported, exactly if none of
  those operations is in the run.
-/

set_option autoImplicit false

namespace ProjectPicker.Session

variable {ε : Type} {s s' : Session} {op : Operation ε} {names : List String}

/-- No template is selected whose name a project has. -/
def SelectsNew (s : Session) : Prop :=
  (Template.names s.board.chosen).Disjoint (Template.names s.board.ready)

theorem selectsNew_start (stackList : List Stack) : SelectsNew (start stackList) :=
  List.disjoint_nil_left _

/-- A template gets selected by the name of a project, or a project gets the name of a selected
template. -/
inductive Collides (s : Session) : Operation ε → Prop
  | click {name : String} (listed : name ∈ Template.names s.selector.listed)
      (taken : name ∈ Template.names s.board.ready) : Collides s (.toggle name true)
  | write {op : Operation ε} {t : Template} (writes : Writes s op t)
      (chosen : t.name ∈ Template.names s.board.chosen) : Collides s op

/-! ## What spoils it -/

theorem Collides.not_selectsNew (inStep : InStep s) (collides : Collides s op) :
    ¬ SelectsNew (operate op s) := by
  intro new
  cases collides with
  | @click name listed taken =>
    have chosen : name ∈ Template.names (s.toggle name true).board.chosen :=
      (mem_names_toggle_chosen inStep).2 ⟨listed, by rw [if_pos rfl]⟩
    exact new chosen taken
  | @write _ t writes chosen =>
    obtain ⟨old, ready, hr, ho⟩ := writes.operated
    rw [ho] at new
    exact new chosen (ReadyList.replace_eq_ok hr).2.mem_names

/-- An import appends what it imports to the ready list, and takes it from the selection. -/
theorem SelectsNew.add (wired : Wired s.channel) (inStep : InStep s) (new : SelectsNew s)
    (batch : List Template) :
    SelectsNew ((s.appended batch).announceAll (Template.names batch)) := by
  rw [SelectsNew, announceAll_ready (s := s.appended batch) wired (inStep.appended batch),
    announceAll_chosen (s := s.appended batch) wired (inStep.appended batch)]
  intro name chosen ready
  obtain ⟨t, ht, rfl⟩ := ReadyList.mem_names.1 chosen
  obtain ⟨ht, unheard⟩ := List.mem_filter.1 ht
  rw [ReadyList.names_append, List.mem_append] at ready
  rcases ready with ready | imported
  · exact new (List.mem_map_of_mem ht) ready
  · rw [Bool.not_eq_true', ← Bool.not_eq_true, List.contains_iff_mem] at unheard
    exact unheard imported

/-- Where nothing is selected that was imported, exactly the collisions spoil it. -/
theorem selectsNew_operate_iff (wired : Wired s.channel) (inStep : InStep s) (new : SelectsNew s)
    (op : Operation ε) : SelectsNew (operate op s) ↔ ¬ Collides s op.plain := by
  constructor
  · intro later collides
    rw [← operate_plain] at later
    exact collides.not_selectsNew inStep later
  · intro fine
    have effect := operate_effect s op
    generalize operate op s = s' at effect ⊢
    generalize op.plain = plain at effect fine
    -- What a click selects and what is written decides; the rest leaves both lists alone or
    -- shrinks the selection.
    cases effect with
    | refused => exact new
    | load => exact new
    | selectStack => exact new
    | typeGit => exact new
    | typeZip => exact new
    | @toggle name checked =>
      intro other chosen ready
      obtain ⟨listed, selected⟩ := (mem_names_toggle_chosen inStep).1 chosen
      split at selected
      · next same =>
        subst same selected
        exact fine (.click listed ready)
      · exact new selected ready
    | add => exact new.add wired inStep _
    | @write _ old t _ writes replaced =>
      intro name chosen ready
      rcases (ReadyList.replace_eq_ok replaced).2.names_subset ready with rfl | ready
      · exact fine (.write writes chosen)
      · exact new chosen ready
    | publish =>
      rw [SelectsNew, announce_ready wired, announce_chosen wired inStep]
      exact List.disjoint_of_subset_left (List.map_subset _ (List.filter_subset_self _)) new
    | listen => exact new
    | unlisten => exact new

/-- A click on what was just imported selects it again, as long as it is listed. -/
theorem click_after_add (wired : Wired s.channel) (inStep : InStep s) {source : Source}
    (h : (add source).run s = .ok names s') {name : String} (imported : name ∈ names)
    (listed : name ∈ Template.names s.selector.listed) :
    name ∈ Template.names (s'.toggle name true).board.chosen ∧
      name ∈ Template.names (s'.toggle name true).board.ready := by
  obtain ⟨batch, -, rfl, -, hs⟩ := add_eq_ok h
  have inStep' : InStep (s.appended batch) := inStep.appended batch
  have after : InStep s' := by
    rw [hs]
    exact (stable_inStep.announceAll (s := s.appended batch) ⟨wired, inStep'⟩).2
  have listed' : s'.selector.listed = s.selector.listed := by
    rw [hs]
    exact announceAll_listed (s := s.appended batch) wired inStep'
  have ready : s'.board.ready = s.board.ready ++ batch := by
    rw [hs]
    exact announceAll_ready (s := s.appended batch) wired inStep'
  constructor
  · rw [mem_names_toggle_chosen after, listed']
    exact ⟨listed, by rw [if_pos rfl]⟩
  · have kept : (s'.toggle name true).board.ready = s'.board.ready := rfl
    rw [kept, ready, ReadyList.names_append]
    exact List.mem_append_right _ imported

/-- All along a run no template is selected whose name a project has, exactly if in its course no
listed box is checked whose name a project has, and no project is renamed or saved under the name of
a selected template. Whatever was imported is not selected right after. -/
theorem selection_new_iff (stackList : List Stack) (ops : List (Operation ε)) :
    ((∀ before, before <+: ops → SelectsNew ((start stackList).run before)) ↔
        ∀ before op after, ops = before ++ op :: after →
          ¬ Collides ((start stackList).run before) op.plain) ∧
      ∀ source names s', (add source).run ((start stackList).run ops) = .ok names s' →
        (Template.names s'.board.chosen).Disjoint names := by
  constructor
  · exact along_iff (P := SelectsNew) stable_inStep
      ⟨Wired.start stackList, InStep.start stackList⟩ (selectsNew_start stackList)
      (fun s op inv new => selectsNew_operate_iff inv.1 inv.2 new op) ops
  · obtain ⟨wired, inStep⟩ := run_inStep stackList ops
    exact fun source names s' h => add_deselects wired inStep h

def offering : Session :=
  (start [⟨"s", "", ["x"]⟩]).run
    [(.load (.ok [{ name := "a", tags := ["x"] }]) : Operation Empty), .selectStack (some "s"),
      .toggle "a" true]

theorem offering_chosen : offering.board.chosen = [{ name := "a", tags := ["x"] }] := by
  decide +kernel

theorem offering_add :
    (add .templates).run offering =
      .ok ["a"] ((offering.appended offering.board.chosen).announceAll ["a"]) := by
  have names : Template.names offering.board.chosen = ["a"] := by
    rw [offering_chosen]
    rfl
  have ready : offering.board.ready = [] := by decide +kernel
  have candidates : offering.board.candidates .templates = .ok offering.board.chosen := by
    rw [Board.candidates, offering_chosen]
    rfl
  have fresh : ReadyList.append offering.board.ready offering.board.chosen =
      .ok (offering.board.ready ++ offering.board.chosen) := by
    rw [ready, offering_chosen]
    rfl
  rw [add_granted candidates fresh, names]

theorem selection_new_offering :
    ∃ s', (add .templates).run offering = .ok ["a"] s' ∧
      (Template.names s'.board.chosen).Disjoint ["a"] := by
  obtain ⟨-, imported⟩ := selection_new_iff [⟨"s", "", ["x"]⟩]
    [(.load (.ok [{ name := "a", tags := ["x"] }]) : Operation Empty), .selectStack (some "s"),
      .toggle "a" true]
  exact ⟨_, offering_add, imported _ _ _ offering_add⟩

/-- The box of an imported template is checked again. -/
theorem click_selects_imported :
    let s := offering.run [(.add .templates : Operation Empty), .toggle "a" true]
    "a" ∈ Template.names s.board.chosen ∧ "a" ∈ Template.names s.board.ready := by
  intro s
  have listed : offering.selector.listed = [{ name := "a", tags := ["x"] }] := by decide +kernel
  obtain ⟨wired, inStep⟩ : Wired offering.channel ∧ InStep offering := run_inStep _ _
  have clicked : s = toggle ((add .templates).after offering) "a" true := rfl
  rw [clicked, Attempt.after_of_ok offering_add]
  exact click_after_add wired inStep offering_add (by simp) (by rw [listed]; simp)

end ProjectPicker.Session
