import ProjectPicker.Proofs.Session.Clicks

/-!
# Several clicks, one after the other

* `Clicks.last?` : what the last click on a name makes of its box;
* `Checks.mark` : the boxes after any clicks, as their last clicks tell;
* `Session.boxed` : a session whose boxes are these, and where just what is checked in the list is
  selected;
* `toggleAll_eq` : any clicks, one after the other, come to one such change;
* `last_clicks_decide` : in every session that a run leads to, only the last click on each name
  counts, and what is selected is in the order of the list.
-/

set_option autoImplicit false

namespace ProjectPicker

/-- Clicks on boxes, the first one first: a name, and whether its box is checked then. -/
abbrev Clicks := List (String × Bool)

namespace Clicks

variable {name other : String} {checked : Bool} {clicks : Clicks}

/-- What the last click on a name makes of its box, if the name is clicked at all. -/
def last? (clicks : Clicks) (name : String) : Option Bool := clicks.reverse.lookup name

theorem last?_cons :
    last? ((other, checked) :: clicks) name =
      (clicks.last? name).or (if name = other then some checked else none) := by
  rw [last?, List.reverse_cons, List.lookup_append, last?]
  congr 1
  by_cases h : name = other
  · rw [h, List.lookup_cons_self, if_pos rfl]
  · rw [List.lookup_cons, beq_eq_false_iff_ne.2 h, if_neg h, List.lookup_nil]

theorem last?_nil : last? [] name = none := rfl

theorem eq_nil_of_last? (h : ∀ name, clicks.last? name = none) : clicks = [] := by
  cases clicks with
  | nil => rfl
  | cons click rest =>
    obtain ⟨name, checked⟩ := click
    have clicked := h name
    rw [last?_cons, if_pos rfl, Option.or_eq_none_iff] at clicked
    cases clicked.2

end Clicks

namespace Checks

variable {c : Checks} {name : String} {checked : Bool} {clicks : Clicks}

def mark (c : Checks) (clicks : Clicks) : Checks :=
  c.map fun box => (box.1, (clicks.last? box.1).getD box.2)

@[simp] theorem mark_nil : c.mark [] = c := by simp [mark, Clicks.last?]

theorem mark_put : (c.put name checked).mark clicks = c.mark ((name, checked) :: clicks) := by
  rw [mark, mark, put, List.map_map]
  refine List.map_congr_left fun box _ => ?_
  rw [Clicks.last?_cons, Function.comp_apply]
  by_cases h : box.1 = name
  · rw [if_pos (beq_iff_eq.2 h), if_pos h, ← h]
    cases Clicks.last? clicks box.1 <;> rfl
  · rw [if_neg (mt beq_iff_eq.1 h), if_neg h, Option.or_none]

theorem isChecked_mark (boxed : c.hasBox name = true) :
    (c.mark clicks).isChecked name = (clicks.last? name).getD (c.isChecked name) := by
  have shows : (c.mark clicks).isChecked name =
      c.any fun box => box.1 == name && (clicks.last? name).getD box.2 := by
    rw [isChecked, mark, List.any_map]
    congr 1
    funext box
    by_cases h : box.1 = name
    · simp [h]
    · simp [beq_eq_false_iff_ne.2 h]
  rw [shows]
  cases clicks.last? name with
  | none => rfl
  | some checked =>
    cases checked with
    | false => simp
    | true => simpa [hasBox] using boxed

end Checks

namespace Session

variable {ε : Type} {s : Session} {clicks clicks' : Clicks}

/-- The boxes of the session are these. Just what is checked in the list is selected, and that is
counted. -/
def boxed (s : Session) (checks : Checks) : Session :=
  let selected := s.selector.listed.filter fun t => checks.isChecked t.name
  { s with
    selector := { s.selector with checks, selected, count := selected.length }
    board := { s.board with chosen := selected } }

theorem toggle_eq_boxed (s : Session) (name : String) (checked : Bool) :
    s.toggle name checked = s.boxed (s.selector.checks.put name checked) := rfl

/-- Nothing is left of the boxes before, nor of what was selected then. -/
theorem boxed_boxed (s : Session) (checks checks' : Checks) :
    (s.boxed checks).boxed checks' = s.boxed checks' := rfl

theorem boxed_checks (s : Session) (checks : Checks) :
    (s.boxed checks).selector.checks = checks := rfl

def toggleAll (s : Session) (clicks : Clicks) : Session :=
  clicks.foldl (fun s click => s.toggle click.1 click.2) s

/-- Clicks, of which there are some, come to one change of the boxes. -/
theorem toggleAll_eq (some_click : clicks ≠ []) :
    s.toggleAll clicks = s.boxed (s.selector.checks.mark clicks) := by
  induction clicks generalizing s with
  | nil => exact absurd rfl some_click
  | cons click rest ih =>
    obtain ⟨name, checked⟩ := click
    have first : s.toggleAll ((name, checked) :: rest) =
        (s.boxed (s.selector.checks.put name checked)).toggleAll rest := by
      rw [← toggle_eq_boxed]
      rfl
    rw [first, ← Checks.mark_put]
    by_cases h : rest = []
    · subst h
      rw [Checks.mark_nil]
      rfl
    · rw [ih h, boxed_boxed, boxed_checks]

/-- The box of a listed template is checked if a template of its name is selected. -/
theorem InStep.isChecked_listed (h : InStep s) {v : Template} (hv : v ∈ s.selector.listed) :
    s.selector.checks.isChecked v.name = (Template.names s.board.chosen).contains v.name := by
  have checked := h.consistent.checked v.name
  rw [h.selected] at checked
  rw [Bool.eq_iff_iff, List.contains_iff_mem]
  exact checked.trans (and_iff_right (List.mem_map_of_mem hv))

/-- In every session that a run leads to, clicks come to the same session in any order and with any
clicks on the same names before, as long as the last click on each name is the same. After a click
just those of the listed templates are selected, in the order of the list, whose box was checked by
the last click on it, or whose name was selected already if it was not clicked. -/
theorem last_clicks_decide (stackList : List Stack) (ops : List (Operation ε))
    (clicks clicks' : Clicks) (same : ∀ name, clicks.last? name = clicks'.last? name) :
    let s := (start stackList).run ops
    let t := s.toggleAll clicks
    let u := s.toggleAll clicks'
    t = u ∧
      (clicks ≠ [] → t.selector.listed = s.selector.listed ∧
        t.selector.selected = t.board.chosen ∧
        t.board.chosen = s.selector.listed.filter fun v =>
          (clicks.last? v.name).getD ((Template.names s.board.chosen).contains v.name)) := by
  intro s t u
  obtain ⟨-, inStep⟩ : Wired s.channel ∧ InStep s := run_inStep stackList ops
  constructor
  · by_cases h' : clicks' = []
    · subst h'
      have h : clicks = [] := Clicks.eq_nil_of_last? fun name => (same name).trans Clicks.last?_nil
      simp only [t, u, h]
    · have h : clicks ≠ [] := by
        rintro rfl
        exact h' (Clicks.eq_nil_of_last? fun name => (same name).symm.trans Clicks.last?_nil)
      have marks : s.selector.checks.mark clicks = s.selector.checks.mark clicks' := by
        simp only [Checks.mark, same]
      calc t
        _ = s.boxed (s.selector.checks.mark clicks) := toggleAll_eq h
        _ = s.boxed (s.selector.checks.mark clicks') := by rw [marks]
        _ = u := (toggleAll_eq h').symm
  · intro h
    have settled : t = s.boxed (s.selector.checks.mark clicks) := toggleAll_eq h
    rw [settled]
    refine ⟨rfl, rfl, List.filter_congr fun v hv => ?_⟩
    have box : s.selector.checks.hasBox v.name = true :=
      inStep.consistent.hasBox_iff.2 (List.mem_map_of_mem hv)
    rw [Checks.isChecked_mark box, inStep.isChecked_listed hv]

/-- Two templates are listed, and one that is hidden is selected. -/
def crowded : Session :=
  (start [⟨"s", "", ["x"]⟩, ⟨"t", "", ["y"]⟩]).run
    [(.load (.ok [{ name := "a", tags := ["x"] }, { name := "b", tags := ["x"] },
      { name := "c", tags := ["y"] }]) : Operation Empty), .selectStack (some "t"),
      .toggle "c" true, .selectStack (some "s")]

/-- The second one is clicked first, and a name that is not listed, and the first one twice. -/
theorem last_clicks_decide_crowded :
    let clicks : Clicks := [("b", true), ("d", true), ("a", false), ("a", true)]
    let clicks' : Clicks := [("a", true), ("d", true), ("b", true)]
    (∀ name, clicks.last? name = clicks'.last? name) ∧
      Template.names crowded.board.chosen = ["c"] ∧
      crowded.toggleAll clicks = crowded.toggleAll clicks' ∧
      Template.names (crowded.toggleAll clicks).board.chosen = ["a", "b"] := by
  intro clicks clicks'
  have same : ∀ name, clicks.last? name = clicks'.last? name := by
    intro name
    simp only [clicks, clicks', Clicks.last?_cons, Clicks.last?_nil, Option.none_or]
    by_cases a : name = "a"
    · simp [a]
    · by_cases d : name = "d" <;> simp [a, d]
  obtain ⟨agree, order⟩ := last_clicks_decide [⟨"s", "", ["x"]⟩, ⟨"t", "", ["y"]⟩]
    [(.load (.ok [{ name := "a", tags := ["x"] }, { name := "b", tags := ["x"] },
      { name := "c", tags := ["y"] }]) : Operation Empty), .selectStack (some "t"),
      .toggle "c" true, .selectStack (some "s")] clicks clicks' same
  have listed : crowded.selector.listed =
      [{ name := "a", tags := ["x"] }, { name := "b", tags := ["x"] }] := by
    rw [crowded, run_load_ordered (by decide)]
    decide +kernel
  have chosen : crowded.board.chosen = [{ name := "c", tags := ["y"] }] := by
    rw [crowded, run_load_ordered (by decide)]
    decide +kernel
  have selected : (crowded.toggleAll clicks).board.chosen =
      crowded.selector.listed.filter fun v =>
        (clicks.last? v.name).getD ((Template.names crowded.board.chosen).contains v.name) :=
    (order (by decide)).2.2
  refine ⟨same, by rw [chosen]; rfl, agree, ?_⟩
  rw [selected, listed, chosen]
  decide

end Session

end ProjectPicker
