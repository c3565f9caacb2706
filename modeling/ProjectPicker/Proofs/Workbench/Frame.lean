import ProjectPicker.Proofs.Views
import ProjectPicker.Workbench.Step

/-!
# What steps on a workbench leave alone

* `fields_setFields`, `setFields_board` and so on : the fields of a kind are a part of their own;
* `subscribe_board`, `release_board`, `attachField_board` and so on : whoever joins or leaves, the
  board stays;
* `actOn_eq_some`, `actOn_eq_none_iff` : the first view of the kind acts, and the others stay as
  they are;
* `getD_of` : a view that has left changes nothing;
* `actOnField_ready`, `actOnSelector_ready` : a view that acts leaves the ready list alone if its
  act does;
* `actOnField_projects`, `actOnField_log` and so on : and it neither joins nor leaves, nor is
  anything written down.
-/

set_option autoImplicit false

namespace ProjectPicker.Workbench

/-! ## Fields -/

section Fields

variable (w : Workbench) (kind : FieldKind) (views : List (Attached kind.Field))

@[simp] theorem fields_setFields : (w.setFields kind views).fields kind = views := by
  cases kind <;> rfl

@[simp] theorem setFields_fields : w.setFields kind (w.fields kind) = w := by cases kind <;> rfl

@[simp] theorem setFields_board : (w.setFields kind views).board = w.board := by
  cases kind <;> rfl

@[simp] theorem setFields_projects : (w.setFields kind views).projects = w.projects := by
  cases kind <;> rfl

@[simp] theorem setFields_log : (w.setFields kind views).log = w.log := by cases kind <;> rfl

end Fields

/-! ## Joining and leaving -/

section Membership

variable (w : Workbench) (id name : String)

@[simp] theorem release_board : (w.release name).2.board = w.board := by
  unfold release
  split
  · split <;> rfl
  · rfl

@[simp] theorem subscribe_board (topic : Topic) (l : Listener) :
    (w.subscribe topic l).2.board = w.board := by
  cases topic <;> simp only [subscribe, release_board]

section Leaving

variable {w id} {kind : FieldKind} {a : Attached kind.Field} {sel : AttachedSelector}

theorem detachField_some (found : (w.fields kind).find? (·.id == id) = some a) :
    w.detachField kind id = (true,
      ({ w with projects := w.projects.unsubscribe a.subscription } : Workbench).setFields kind
        ((w.fields kind).filter (·.subscription != a.subscription))) := by
  rw [detachField, found]

theorem detachField_none (absent : (w.fields kind).find? (·.id == id) = none) :
    w.detachField kind id = (false, w) := by
  rw [detachField, absent]

theorem detachSelector_some (found : w.selectors.find? (·.id == id) = some sel) :
    w.detachSelector id = (true, { w with
      selectors := w.selectors.filter (·.subscription != sel.subscription)
      stackChanges := w.stackChanges.unsubscribe sel.stackSubscription
      projects := w.projects.unsubscribe sel.subscription }) := by
  rw [detachSelector, found]

theorem detachSelector_none (absent : w.selectors.find? (·.id == id) = none) :
    w.detachSelector id = (false, w) := by
  rw [detachSelector, absent]

end Leaving

@[simp] theorem detachField_board (kind : FieldKind) :
    (w.detachField kind id).2.board = w.board := by
  unfold detachField
  split
  · exact setFields_board _ kind _
  · rfl

@[simp] theorem attachField_board (kind : FieldKind) :
    (w.attachField kind id).2.board = w.board := by
  rw [attachField]
  exact (setFields_board _ kind _).trans (detachField_board _ id kind)

@[simp] theorem detachSelector_board : (w.detachSelector id).2.board = w.board := by
  unfold detachSelector
  split <;> rfl

@[simp] theorem attachSelector_board : (w.attachSelector id).2.board = w.board :=
  detachSelector_board _ id

end Membership

/-! ## Acting views -/

section Acting

variable {w w' : Workbench} {b b' : Board}

/-- Whoever has left acts by doing nothing. -/
theorem getD_of {P : Workbench → Prop} {r : Option Workbench} (h : ∀ u, r = some u → P u)
    (hw : P w) : P (r.getD w) := by
  cases r with
  | none => exact hw
  | some u => exact h u rfl

section First

variable {α : Type} {p : α → Bool} {act : α → Board → α × Board} {views views' : List α}

theorem actOn_eq_some (h : actOn p act views b = some (views', b')) :
    ∃ before a after, views = before ++ a :: after ∧ (∀ x ∈ before, p x = false) ∧ p a = true ∧
      views' = before ++ (act a b).1 :: after ∧ b' = (act a b).2 := by
  induction views generalizing views' with
  | nil => cases h
  | cons x rest ih =>
    unfold actOn at h
    split at h
    · next here =>
      cases h
      exact ⟨[], x, rest, rfl, fun _ never => (by cases never), here, rfl, rfl⟩
    · next elsewhere =>
      obtain ⟨⟨rest', b₁⟩, hr, h⟩ := Option.map_eq_some_iff.1 h
      cases h
      obtain ⟨before, a, after, rfl, others, here, rfl, rfl⟩ := ih hr
      refine ⟨x :: before, a, after, rfl, fun y hy => ?_, here, rfl, rfl⟩
      obtain rfl | hy := List.mem_cons.1 hy
      · simpa using elsewhere
      · exact others y hy

theorem actOn_eq_none_iff : actOn p act views b = none ↔ ∀ a ∈ views, p a = false := by
  induction views with
  | nil => exact ⟨fun _ _ never => (by cases never), fun _ => rfl⟩
  | cons x rest ih => cases here : p x <;> simp [actOn, here, ih]

theorem actOn_board {R : Board → Board → Prop} (hact : ∀ a b, R b (act a b).2)
    (h : actOn p act views b = some (views', b')) : R b b' := by
  obtain ⟨before, a, after, -, -, -, -, rfl⟩ := actOn_eq_some h
  exact hact a b

/-- What an act leaves alone in each view stays as it is. -/
theorem actOn_map {β : Type} {f : α → β} (hact : ∀ a b, f (act a b).1 = f a)
    (h : actOn p act views b = some (views', b')) : views'.map f = views.map f := by
  obtain ⟨before, a, after, rfl, -, -, rfl, -⟩ := actOn_eq_some h
  rw [List.map_append, List.map_append, List.map_cons, List.map_cons, hact]

end First

section Field

variable {kind : FieldKind} {p : Attached kind.Field → Bool}
  {act : kind.Field → Board → kind.Field × Board}

theorem actOnField_eq_some (h : w.actOnField kind p act = some w') :
    ∃ views b, actOn p (Attached.act act) (w.fields kind) w.board = some (views, b) ∧
      w' = ({ w with board := b } : Workbench).setFields kind views := by
  obtain ⟨⟨views, b⟩, acted, rfl⟩ := Option.map_eq_some_iff.1 h
  exact ⟨views, b, acted, rfl⟩

theorem actOnField_projects (h : w.actOnField kind p act = some w') :
    w'.projects = w.projects := by
  obtain ⟨views, b, -, rfl⟩ := actOnField_eq_some h
  exact setFields_projects _ kind views

theorem actOnField_log (h : w.actOnField kind p act = some w') : w'.log = w.log := by
  obtain ⟨views, b, -, rfl⟩ := actOnField_eq_some h
  exact setFields_log _ kind views

theorem actOnField_ready (hact : ∀ x b, (act x b).2.ready = b.ready)
    (h : w.actOnField kind p act = some w') : w'.board.ready = w.board.ready := by
  obtain ⟨views, b, acted, rfl⟩ := actOnField_eq_some h
  rw [setFields_board]
  refine actOn_board (R := fun b b' => b'.ready = b.ready) (fun a b => ?_) acted
  exact hact a.view b

end Field

theorem actOnSelector_projects {p : AttachedSelector → Bool}
    {act : Selector → Board → Selector × Board} (h : w.actOnSelector p act = some w') :
    w'.projects = w.projects := by
  obtain ⟨_, -, rfl⟩ := Option.map_eq_some_iff.1 h
  rfl

theorem actOnSelector_log {p : AttachedSelector → Bool}
    {act : Selector → Board → Selector × Board} (h : w.actOnSelector p act = some w') :
    w'.log = w.log := by
  obtain ⟨_, -, rfl⟩ := Option.map_eq_some_iff.1 h
  rfl

theorem actOnSelector_ready {p : AttachedSelector → Bool}
    {act : Selector → Board → Selector × Board} (hact : ∀ x b, (act x b).2.ready = b.ready)
    (h : w.actOnSelector p act = some w') : w'.board.ready = w.board.ready := by
  obtain ⟨⟨views, b⟩, hr, rfl⟩ := Option.map_eq_some_iff.1 h
  refine actOn_board (R := fun b b' => b'.ready = b.ready) (fun a b => ?_) hr
  exact hact a.view b

@[simp] theorem selectorAct_ready (action : SelectorAction) (s : Selector) (b : Board) :
    (selectorAct action s b).2.ready = b.ready := by
  cases action with
  | click name checked => exact Selector.click_ready s b name checked
  | added name => exact Selector.added_ready s b name
  | _ => rfl

@[simp] theorem FieldKind.clear_ready (kind : FieldKind) (name : String) (f : kind.Field)
    (b : Board) : (kind.clear name f b).2.ready = b.ready := by
  cases kind with
  | git => rw [clear, GitField.clear_ready]
  | zip => rw [clear, ZipField.clear_ready]

@[simp] theorem GitAction.act_ready (action : GitAction) (f : GitField) (b : Board) :
    (action.act f b).2.ready = b.ready := by
  cases action <;> simp [act]

@[simp] theorem ZipAction.act_ready (action : ZipAction) (f : ZipField) (b : Board) :
    (action.act f b).2.ready = b.ready := by
  cases action <;> simp [act]

@[simp] theorem FieldKind.act_ready (kind : FieldKind) (action : kind.Action) (f : kind.Field)
    (b : Board) : (kind.act action f b).2.ready = b.ready := by
  cases kind with
  | git => exact GitAction.act_ready action f b
  | zip => exact ZipAction.act_ready action f b

@[simp] theorem takeField_ready (kind : FieldKind) (id : String) (action : kind.Action)
    (w : Workbench) : (takeField kind id action w).2.board.ready = w.board.ready := by
  unfold takeField
  split
  · next u acted => exact actOnField_ready (kind.act_ready action) acted
  · rfl

theorem fetch_ready {supply : Option (List Template)} (h : w.fetch supply = .ok w') :
    w'.board.ready = w.board.ready := by
  cases supply <;> cases h
  rfl

@[simp] theorem takeSelector_ready (id : String) (action : SelectorAction) (w : Workbench) :
    (takeSelector id action w).2.board.ready = w.board.ready := by
  have acts : ∀ u : Workbench,
      ((u.actOnSelector (·.id == id) (selectorAct action)).getD u).board.ready = u.board.ready :=
    fun u => getD_of (P := fun v => v.board.ready = u.board.ready)
      (fun _ h => actOnSelector_ready (selectorAct_ready action) h) rfl
  unfold takeSelector
  split
  · rfl
  · split
    · rfl
    · split
      · rfl
      · next u hu => exact (acts u).trans (fetch_ready hu)
    · exact acts w

@[simp] theorem openEditor_ready (id : String) (t : Template) (w : Workbench) :
    (openEditor id t w).2.board.ready = w.board.ready := by
  unfold openEditor
  split <;> rfl

end Acting

end ProjectPicker.Workbench
