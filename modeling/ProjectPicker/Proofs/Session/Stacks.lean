import ProjectPicker.Proofs.Session.Clicks
import ProjectPicker.Proofs.Session.Listing

/-!
# The choice of a stack

* `Checks.eq_map_keys`, `Consistent.checks_eq` : the boxes of a consistent selector are determined
  by what is listed and what is selected;
* `Selector.arranged`, `Consistent.stackChanged_eq` : so once a stack with tags is active, the
  selector shows what its tags, the catalogue and the selection come to, and nothing of the stacks
  that were active before;
* `Session.Chooses`, `Session.Alike` : a stack becomes active, or none does; all else stays alike;
* `stack_choice_forgets` : in every session that a run leads to, choosing a stack with tags comes to
  the same whatever stacks were chosen since. Leaving such a stack and coming back restores all that
  the selector holds if its count was right, and all but the count if it was not.
-/

set_option autoImplicit false

namespace ProjectPicker

/-! ## The boxes of a consistent selector -/

/-- Without its repetitions a list has no repetitions. -/
theorem nodup_eraseDups : ∀ names : List String, names.eraseDups.Nodup
  | [] => List.nodup_nil
  | name :: rest => by
    rw [List.eraseDups_cons, List.nodup_cons, List.mem_eraseDups]
    exact ⟨by simp, nodup_eraseDups _⟩
termination_by names => names.length
decreasing_by
  have shorter := List.length_filter_le (fun other => !other == name) rest
  rw [List.length_cons]
  omega

namespace Checks

variable {c : Checks}

/-- Where each name has one box, a box says whether its name is checked. -/
theorem eq_map_keys (once : c.keys.Nodup) :
    c = c.keys.map fun name => (name, c.isChecked name) := by
  rw [keys, List.map_map]
  refine (List.map_id c).symm.trans (List.map_congr_left fun box hb => ?_)
  refine Prod.ext rfl ?_
  change box.2 = c.isChecked box.1
  rw [Bool.eq_iff_iff, isChecked_iff]
  constructor
  · intro checked
    rwa [← checked]
  · intro hc
    have same := List.inj_on_of_nodup_map once hb hc rfl
    rw [same]

end Checks

namespace Selector

variable {s : Selector} {b : Board} {id : String}

theorem Consistent.checks_eq (h : s.Consistent) :
    s.checks = (Template.names s.listed).eraseDups.map fun name =>
      (name, (Template.names s.selected).contains name) := by
  have once : s.checks.keys.Nodup := h.keys ▸ nodup_eraseDups _
  rw [Checks.eq_map_keys once, h.keys]
  refine List.map_congr_left fun name hn => Prod.ext rfl ?_
  change s.isChecked name = (Template.names s.selected).contains name
  rw [Bool.eq_iff_iff, h.checked, List.contains_iff_mem]
  exact and_iff_right (List.mem_eraseDups.1 hn)

/-- The selector for the tags of a stack: what it shows of the catalogue and of the selection. -/
def arranged (stackTags : List String) (all selected : List Template) : Selector :=
  let listed := all.filter (·.hasTag stackTags)
  { stackTags, all, listed, selected
    checks := (Template.names listed).eraseDups.map fun name =>
      (name, (Template.names selected).contains name)
    count := (listed.filter fun t => (Template.names selected).contains t.name).length }

/-- A consistent selector that lists what its tags ask for differs from that in its count at
most. -/
theorem Consistent.recount_eq (h : s.Consistent)
    (listed : s.listed = s.all.filter (·.hasTag s.stackTags)) :
    s.recount = arranged s.stackTags s.all s.selected := by
  have count : s.checkedTemplates.length = (s.selectedIn s.listed).length := by
    rw [h.checkedTemplates]
  rw [Selector.recount, count, selectedIn, arranged, ← listed, ← h.checks_eq]

/-- Once a stack with tags is active, nothing is left of those that were active before. -/
theorem Consistent.stackChanged_eq (h : s.Consistent) (active : b.activeStack = some id)
    (tagged : Stack.activeTags b.stackList id ≠ []) :
    s.stackChanged b = arranged (Stack.activeTags b.stackList id) s.all s.selected := by
  have consistent : (s.stackChanged b).Consistent := h.stackChanged b
  rw [Selector.stackChanged, active] at consistent ⊢
  exact consistent.recount_eq (narrowed_filter { s with stackTags := _ } tagged)

end Selector

namespace Session

variable {ε : Type} {s s' t : Session} {id : Option String}

/-! ## Choices of stacks -/

/-- A known stack becomes active, or none does. -/
def Chooses (s s' : Session) : Prop := ∃ id, (selectStack id).run s = .ok () s'

/-- The sessions hold the same, apart from which stack is active, what is listed for it and what
was sent. -/
structure Alike (s s' : Session) : Prop where
  board : s'.board = { s.board with activeStack := s'.board.activeStack }
  all : s'.selector.all = s.selector.all
  selected : s'.selector.selected = s.selector.selected

theorem Alike.refl (s : Session) : Alike s s := ⟨rfl, rfl, rfl⟩

theorem Alike.trans (h : Alike s t) (h' : Alike t s') : Alike s s' where
  board := h'.board.trans
    (congrArg (fun b : Board => { b with activeStack := s'.board.activeStack }) h.board)
  all := h'.all.trans h.all
  selected := h'.selected.trans h.selected

theorem alike_activate (s : Session) (id : Option String) : Alike s (s.activate id) := by
  refine ⟨rfl, ?_, ?_⟩ <;>
  · rw [activate, Selector.stackChanged]
    split <;> rfl

theorem Chooses.alike (h : Chooses s s') : Alike s s' := by
  obtain ⟨id, granted⟩ := h
  rw [selectStack_eq_ok granted]
  exact alike_activate s id

theorem alike_of_choices (h : Relation.ReflTransGen Chooses s s') : Alike s s' := by
  induction h with
  | refl => exact .refl s
  | tail _ choice ih => exact ih.trans choice.alike

theorem inStep_of_choices (inStep : InStep s) (h : Relation.ReflTransGen Chooses s s') :
    InStep s' := by
  induction h with
  | refl => exact inStep
  | tail _ choice ih =>
    obtain ⟨id, granted⟩ := choice
    rw [selectStack_eq_ok granted]
    exact ih.activate id

theorem activate_selector (inStep : InStep s) {id : String}
    (tagged : Stack.activeTags s.board.stackList id ≠ []) :
    (s.activate (some id)).selector =
      .arranged (Stack.activeTags s.board.stackList id) s.selector.all s.selector.selected :=
  inStep.consistent.stackChanged_eq (b := { s.board with activeStack := some id }) rfl tagged

/-- A stack with tags makes sessions the same that were alike. -/
theorem Alike.activate (alike : Alike s s') (inStep : InStep s) (inStep' : InStep s') {id : String}
    (tagged : Stack.activeTags s.board.stackList id ≠ []) :
    (s'.activate (some id)).selector = (s.activate (some id)).selector ∧
      (s'.activate (some id)).board = (s.activate (some id)).board := by
  have known : s'.board.stackList = s.board.stackList := by rw [alike.board]
  refine ⟨?_, congrArg (fun b : Board => { b with activeStack := some id }) alike.board⟩
  rw [activate_selector inStep tagged, activate_selector inStep' (known ▸ tagged), known,
    alike.all, alike.selected]

/-! ## The active stack -/

/-- The selector goes by the active stack, and lists what carries one of its tags. -/
theorem stable_narrowed : Stable fun s =>
    Wired s.channel ∧ Selector.Follows s.board s.selector.stackTags ∧ s.selector.Narrowed where
  load s catalogue h :=
    ⟨h.1, h.2.1, Selector.narrowed_fetched { s.board with catalogue } s.selector⟩
  activate s id h :=
    ⟨h.1, Selector.follows_stackChanged { s.board with activeStack := id } s.selector,
      h.2.2.stackChanged _⟩
  typeGit _ _ h := h
  typeZip _ _ _ h := h
  toggle _ _ _ h := h
  ready _ _ _ h := h
  announce s name h := by
    obtain ⟨wired, follows, narrowed⟩ := h
    refine ⟨announce_channel wired.idle ▸ wired, ?_⟩
    rw [announced wired]
    refine ⟨?_, narrowed.added name s.board⟩
    dsimp only
    rw [Selector.added_stackTags]
    exact fun id active => follows id active
  listen _ name h := ⟨h.1.listen name, h.2⟩
  unlisten _ name h := ⟨h.1.unlisten name, h.2⟩

/-- Where a stack with tags is active, making it active again counts the boxes anew, and does
nothing else to the selector or the board. -/
theorem activate_active (inStep : InStep s)
    (follows : Selector.Follows s.board s.selector.stackTags) (narrowed : s.selector.Narrowed)
    {id : String} (active : s.board.activeStack = some id)
    (tagged : Stack.activeTags s.board.stackList id ≠ []) :
    (s.activate (some id)).selector = s.selector.recount ∧
      (s.activate (some id)).board = s.board := by
  have tags : s.selector.stackTags = Stack.activeTags s.board.stackList id := follows id active
  constructor
  · rw [activate_selector inStep tagged, ← tags]
    exact (inStep.consistent.recount_eq (narrowed (tags ▸ tagged))).symm
  · rw [activate, ← active]

/-- In every session that a run leads to, no choice of a stack, or of none, changes what is
selected. Choosing a stack with tags is granted, and leaves the same selector and the same board
whatever stacks, or none, were chosen before it since then. Where that stack was active already,
leaving it and coming back restores the board, and of the selector the list, the boxes and the
selection; the boxes are counted anew, so the count is restored exactly if it was right. -/
theorem stack_choice_forgets (stackList : List Stack) (ops : List (Operation ε)) :
    let s := (start stackList).run ops
    (∀ s', Relation.ReflTransGen Chooses s s' →
        s'.selector.selected = s.selector.selected ∧ s'.board.chosen = s.board.chosen) ∧
      ∀ id stack, Stack.find? stackList id = some stack → stack.tags ≠ [] →
        ∃ s₁, (selectStack (some id)).run s = .ok () s₁ ∧
          (s.board.activeStack = some id →
            s₁.board = s.board ∧ s₁.selector = s.selector.recount ∧
              (s₁.selector = s.selector ↔ s.selector.Counted)) ∧
          ∀ s', Relation.ReflTransGen Chooses s s' →
            ∃ s₂, (selectStack (some id)).run s' = .ok () s₂ ∧
              s₂.selector = s₁.selector ∧ s₂.board = s₁.board := by
  intro s
  obtain ⟨wired, inStep⟩ : Wired s.channel ∧ InStep s := run_inStep stackList ops
  obtain ⟨-, follows, narrowed⟩ := stable_narrowed.run ops
    ⟨Wired.start stackList, Selector.follows_attach { stackList },
      Selector.narrowed_attach { stackList }⟩
  have known : s.board.stackList = stackList := (FollowsHistory.run stackList ops).known
  refine ⟨fun s' choices => ?_, fun id stack found hasTags => ?_⟩
  · have alike := alike_of_choices choices
    exact ⟨alike.selected, by rw [alike.board]⟩
  · have tagged : Stack.activeTags s.board.stackList id ≠ [] := by
      rw [known, Stack.activeTags, found]
      simpa [lowerTags] using hasTags
    refine ⟨s.activate (some id), selectStack_known (known ▸ found), fun active => ?_,
      fun s' choices => ?_⟩
    · obtain ⟨selector, board⟩ := activate_active inStep follows narrowed active tagged
      refine ⟨board, selector, ?_⟩
      rw [selector]
      exact Selector.recount_eq_self_iff
    · have alike := alike_of_choices choices
      have same : s'.board.stackList = s.board.stackList := by rw [alike.board]
      exact ⟨s'.activate (some id), selectStack_known (same ▸ known ▸ found),
        alike.activate inStep (inStep_of_choices inStep choices) tagged⟩

/-- The other stack, and then none, is chosen in the meantime, and the box that was checked is
hidden by then. -/
theorem stack_choice_forgets_facing :
    let s' := (facing.activate (some "t")).activate none
    (facing.board.activeStack = some "s" ∧ Relation.ReflTransGen Chooses facing s' ∧
        s'.selector.checks = [("b", false)]) ∧
      ∃ s₂, (selectStack (some "s")).run s' = .ok () s₂ ∧
        s₂.selector.checks = [("a", true)] ∧ s₂.selector.count = 1 ∧
        s₂.selector = facing.selector ∧ s₂.board = facing.board := by
  intro s'
  have stackList : facing.board.stackList = [⟨"s", "", ["x"]⟩, ⟨"t", "", ["y"]⟩] := by
    decide +kernel
  have active : facing.board.activeStack = some "s" := by decide +kernel
  have found : Stack.find? facing.board.stackList "t" = some ⟨"t", "", ["y"]⟩ := by
    rw [stackList]
    decide
  have choices : Relation.ReflTransGen Chooses facing s' :=
    .tail (.single ⟨some "t", selectStack_known found⟩) ⟨none, rfl⟩
  obtain ⟨-, choose⟩ := stack_choice_forgets [⟨"s", "", ["x"]⟩, ⟨"t", "", ["y"]⟩]
    [(.load (.ok [{ name := "a", tags := ["x"] }, { name := "b", tags := ["y"] }]) :
      Operation Empty), .selectStack (some "s"), .toggle "a" true]
  obtain ⟨s₁, -, restored, back⟩ := choose "s" ⟨"s", "", ["x"]⟩ (by decide) (by decide)
  obtain ⟨board, -, all⟩ := restored active
  obtain ⟨s₂, granted, selector', board'⟩ := back s' choices
  have counted : facing.selector.Counted := by
    rw [facing_selector]
    rfl
  have same : s₂.selector = facing.selector := selector'.trans (all.2 counted)
  refine ⟨⟨active, choices, ?_⟩, s₂, granted, ?_, ?_, same, board'.trans board⟩
  · change ((facing.activate (some "t")).activate none).selector.checks = _
    rw [facing, run_load_ordered (by decide)]
    decide +kernel
  · rw [same, facing_selector]
  · rw [same, facing_selector]

/-- The same, after the catalogue was fetched again and is empty. -/
def emptied : Session := facing.run [(.load (.ok []) : Operation Empty)]

/-- One template is still said to be selected, until another stack was active in between. -/
theorem return_recounts :
    ∃ s' s₂, (selectStack (some "t")).run emptied = .ok () s' ∧
      (selectStack (some "s")).run s' = .ok () s₂ ∧ emptied.board.activeStack = some "s" ∧
      emptied.selector.count = 1 ∧ s₂.selector.count = 0 ∧ s₂.selector ≠ emptied.selector := by
  have stackList : emptied.board.stackList = [⟨"s", "", ["x"]⟩, ⟨"t", "", ["y"]⟩] := by
    decide +kernel
  have left : Stack.find? emptied.board.stackList "t" = some ⟨"t", "", ["y"]⟩ := by
    rw [stackList]
    decide
  have back : Stack.find? (emptied.activate (some "t")).board.stackList "s" =
      some ⟨"s", "", ["x"]⟩ := by
    change Stack.find? emptied.board.stackList "s" = _
    rw [stackList]
    decide
  have active : emptied.board.activeStack = some "s" := by decide +kernel
  have before : emptied.selector.count = 1 := by
    have kept : emptied.selector.count = facing.selector.count := rfl
    rw [kept, facing_selector]
  have after : ((emptied.activate (some "t")).activate (some "s")).selector.count = 0 := by
    decide +kernel
  refine ⟨_, _, selectStack_known left, selectStack_known back, active, before, after,
    fun same => ?_⟩
  rw [same, before] at after
  cases after

end Session

end ProjectPicker
