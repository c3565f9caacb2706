import ProjectPicker.Proofs.Session.Effects
import ProjectPicker.Session.Summary

/-!
# The count of selected templates

* `ShowsCount` : the summary shows how many listed templates are checked;
* `counted_operate_iff` : of all operations only a fetch of the catalogue can spoil the count, for
  it lists and checks anew but does not count;
* `count_shown_iff` : the summary shows the right count all along a run exactly if no fetch changes
  how many of the listed templates carry a selected name. A click, and a stack that becomes active,
  put it right again.
-/

set_option autoImplicit false

namespace ProjectPicker.Session

variable {ε : Type} {s : Session}

def shown (s : Session) (key : String) : Option Json :=
  match s.summary with
  | .object members =>
    (members.find? fun m => match m.1 with
      | .text text => text == some key
      | _ => false).map (·.2)
  | _ => none

/-- The summary shows how many listed templates are checked, and that something is selected exactly
if that is not none. -/
structure ShowsCount (s : Session) : Prop where
  number : s.shown "new_templates_number" = some (.nat s.selector.checkedTemplates.length)
  selected :
    s.shown "templates_selected" = some (.bool (decide (0 < s.selector.checkedTemplates.length)))

theorem shown_number (s : Session) :
    s.shown "new_templates_number" = some (.nat s.selector.count) := rfl

theorem shown_selected (s : Session) :
    s.shown "templates_selected" = some (.bool (decide (0 < s.selector.count))) := by
  have cast : (0 < (s.selector.count : Int)) ↔ 0 < s.selector.count := Int.natCast_pos
  have shown : s.shown "templates_selected" =
      some (.bool (decide (0 < (s.selector.count : Int)))) := rfl
  rw [shown]
  simp only [cast]

theorem showsCount_iff : s.ShowsCount ↔ s.selector.Counted := by
  constructor
  · intro h
    have same := s.shown_number.symm.trans h.number
    simp only [Json.nat, Decimal.ofNat, Option.some.injEq, Json.number.injEq, Decimal.mk.injEq,
      true_and, and_true] at same
    exact same
  · intro h
    refine ⟨?_, ?_⟩
    · rw [shown_number, h]
    · rw [shown_selected, h]

/-! ## What spoils the count -/

/-- A catalogue was fetched, with which another number of listed templates carry a selected name. -/
inductive Miscounts (s : Session) : Operation ε → Prop
  | load {catalogue : List Template}
      (other : (s.selector.selectedIn (s.selector.relisted catalogue)).length ≠
        (s.selector.selectedIn s.selector.listed).length) :
      Miscounts s (.load (.ok catalogue))

/-- A fetch leaves the count as it was. -/
theorem counted_load_iff (inStep : InStep s) (counted : s.selector.Counted)
    (catalogue : List Template) :
    (s.selector.fetched { s.board with catalogue }).Counted ↔
      (s.selector.selectedIn (s.selector.relisted catalogue)).length =
        (s.selector.selectedIn s.selector.listed).length := by
  rw [inStep.consistent.counted_fetched, counted, inStep.consistent.checkedTemplates]
  exact eq_comm

/-- Where the count is right, exactly the fetches that list another number of selected names spoil
it. -/
theorem counted_operate_iff (wired : Wired s.channel) (inStep : InStep s)
    (counted : s.selector.Counted) (op : Operation ε) :
    (operate op s).selector.Counted ↔ ¬ Miscounts s op := by
  constructor
  · rintro later ⟨other⟩
    exact other ((counted_load_iff inStep counted _).1 later)
  · intro fine
    have effect := operate_effect s op
    generalize operate op s = s' at effect ⊢
    generalize hp : op.plain = plain at effect
    cases effect with
    | refused => exact counted
    | load =>
      -- A fetch is no command, so `op` is itself the fetch.
      cases op with
      | apply command => cases command <;> cases hp
      | load fetched =>
        cases hp
        refine (counted_load_iff inStep counted _).2 (by_contra fun other => ?_)
        exact fine (.load other)
      | _ => cases hp
    | selectStack => exact counted.stackChanged _
    | typeGit => exact counted
    | typeZip => exact counted
    | toggle => exact s.selector.counted_click _ _ s.board
    | add => exact announceAll_counted (s := s.appended _) wired (inStep.appended _) counted
    | write => exact counted
    | publish => exact announce_counted wired counted _
    | listen => exact counted
    | unlisten => exact counted

theorem counted_start (stackList : List Stack) : (start stackList).selector.Counted := rfl

/-- All along a run the summary shows how many listed templates are checked, and whether that is any
at all, exactly if no catalogue fetched in its course changes how many listed templates carry a
selected name. After every run it does once a box is clicked or a stack becomes active. -/
theorem count_shown_iff (stackList : List Stack) (ops : List (Operation ε)) :
    ((∀ before, before <+: ops → ShowsCount ((start stackList).run before)) ↔
        ∀ before catalogue after, ops = before ++ .load (.ok catalogue) :: after →
          let s := ((start stackList).run before).selector
          (s.selectedIn (s.relisted catalogue)).length = (s.selectedIn s.listed).length) ∧
      (∀ name checked, ShowsCount (((start stackList).run ops).toggle name checked)) ∧
      ∀ id s', (selectStack (some id)).run ((start stackList).run ops) = .ok () s' →
        ShowsCount s' := by
  refine ⟨?_, fun name checked => ?_, fun id s' h => ?_⟩
  · have along := along_iff (P := ShowsCount) stable_inStep
      ⟨Wired.start stackList, InStep.start stackList⟩ (showsCount_iff.2 (counted_start stackList))
      (fun s op inv shows => showsCount_iff.trans
        (counted_operate_iff inv.1 inv.2 (showsCount_iff.1 shows) op)) ops
    refine along.trans ⟨fun fine before catalogue after h => ?_, ?_⟩
    · exact by_contra fun other => fine before _ after h (.load other)
    · rintro same before _ after h ⟨other⟩
      exact other (same before _ after h)
  · exact showsCount_iff.2 (Selector.counted_click _ name checked ((start stackList).run ops).board)
  · rw [selectStack_eq_ok h]
    exact showsCount_iff.2 (Selector.counted_stackChanged rfl _)

/-- A session where a template is selected and then a catalogue without it is fetched. -/
def outdated : Session :=
  (start [⟨"s", "", ["x"]⟩]).run
    [(.load (.ok [{ name := "a", tags := ["x"] }]) : Operation Empty), .selectStack (some "s"),
      .toggle "a" true, .load (.ok [])]

theorem count_shown_outdated :
    (outdated.toggle "b" true).ShowsCount ∧
      ∃ s', (selectStack (some "s")).run outdated = .ok () s' ∧ s'.ShowsCount := by
  obtain ⟨-, clicked, followed⟩ := count_shown_iff [⟨"s", "", ["x"]⟩]
    [(.load (.ok [{ name := "a", tags := ["x"] }]) : Operation Empty), .selectStack (some "s"),
      .toggle "a" true, .load (.ok [])]
  exact ⟨clicked "b" true, outdated.activate (some "s"), rfl, followed "s" _ rfl⟩

/-- Nothing is listed and yet one template is said to be selected. -/
theorem fetch_keeps_old_count :
    outdated.selector.checkedTemplates = [] ∧
      outdated.shown "new_templates_number" = some (.nat 1) ∧
      outdated.shown "templates_selected" = some (.bool true) ∧ ¬ outdated.ShowsCount := by
  have count : outdated.selector.count = 1 := by decide +kernel
  have checked : outdated.selector.checkedTemplates = [] := by decide +kernel
  refine ⟨checked, ?_, ?_, fun h => ?_⟩
  · rw [shown_number, count]
  · rw [shown_selected, count]
    rfl
  · rw [showsCount_iff, Selector.Counted, count, checked] at h
    cases h

end ProjectPicker.Session
