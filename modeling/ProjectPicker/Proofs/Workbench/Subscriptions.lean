import ProjectPicker.Proofs.Workbench.Owners

/-!
# What owned subscriptions come to

* `Workbench.Tallied`, `Accounted.tallied` : the channels of a workbench have as many subscribers as
  there are owners;
* `Workbench.Silent`, `Accounted.silent` : a view that has left changes nothing when its turn comes;
* `Workbench.Orderly`, `Accounted.orderly` : a view that leaves is gone with its subscriptions, and
  nobody else is, and one that joins is the only one of its name.
-/

set_option autoImplicit false

namespace ProjectPicker.Workbench

variable {w : Workbench} {joining joiningStack : List (Nat × Role)}

/-! ## How many there are, and who has left -/

def heldOn (topic : Topic) (w : Workbench) : Nat := w.held.countP (·.2.1 = topic)

/-- The subscriptions are those of the views that are attached and of the listeners that are held,
one for one, so the channels have as many subscribers as there are of these. -/
structure Tallied (w : Workbench) : Prop where
  projectsOwned : (w.projects.subscribers.map fun x => (x.1, x.2.role)).Perm w.projectOwners
  stackChangesOwned :
    (w.stackChanges.subscribers.map fun x => (x.1, x.2.role)).Perm w.stackOwners
  projects : w.projects.size =
    w.gitFields.length + w.zipFields.length + w.selectors.length + w.heldOn .projects
  stackChanges : w.stackChanges.size = w.selectors.length + w.heldOn .stackChanges

theorem length_listenersOn (topic : Topic) (w : Workbench) :
    (listenersOn topic w.held).length = w.heldOn topic := by
  rw [heldOn, listenersOn]
  induction w.held with
  | nil => rfl
  | cons e rest ih =>
    obtain ⟨name, t, id⟩ := e
    by_cases here : t = topic <;> simp [here, ih]

theorem Accounted.tallied (h : Accounted [] [] w) : w.Tallied where
  projectsOwned := by simpa using h.projects.registered
  stackChangesOwned := by simpa using h.stackChanges.registered
  projects := by
    rw [h.projects.size_eq]
    simp only [projectOwners, List.length_append, List.length_map, length_listenersOn,
      List.length_nil]
    omega
  stackChanges := by
    rw [h.stackChanges.size_eq]
    simp [stackOwners, length_listenersOn]

/-- A view whose subscription has ended changes nothing when its turn comes after all. -/
structure Silent (w : Workbench) : Prop where
  projects : ∀ (nested : Step → Workbench → Option (Outcome × Workbench)) (name : String)
    (id : Nat) (who : ProjectSubscriber), who.listener? = none →
      (∀ x ∈ w.projects.subscribers, x.1 ≠ id) → serveProject nested name id who w = some w
  stackChanges : ∀ (nested : Step → Workbench → Option (Outcome × Workbench)) (id : Nat)
    (who : StackSubscriber), who.listener? = none →
      (∀ x ∈ w.stackChanges.subscribers, x.1 ≠ id) → serveStack nested id who w = some w

theorem Accounted.silent (h : Accounted [] [] w) : w.Silent where
  projects nested name id who view ended := by
    cases who with
    | field kind =>
      have unowned := ((owned_iff kind).1 h.projects).unowned ended
      simp only [List.forall_mem_append, List.forall_mem_map] at unowned
      have absent : ∀ a ∈ w.fields kind, (a.subscription == id) = false := fun a ha =>
        beq_eq_false_iff_ne.2 (unowned.1 a ha)
      rw [serveProject, Workbench.actOnField, actOn_eq_none_iff.2 absent, Option.map_none,
        Option.getD_none]
    | selector =>
      have unowned := (owned_iff_selectors.1 h.projects).unowned ended
      simp only [List.forall_mem_append, List.forall_mem_map] at unowned
      have absent : ∀ a ∈ w.selectors, (a.subscription == id) = false := fun a ha =>
        beq_eq_false_iff_ne.2 (unowned.1 a ha)
      rw [serveProject, actOnSelector_eq_none_iff.2 absent, Option.getD_none]
    | listener l => cases view
  stackChanges nested id who view ended := by
    cases who with
    | selector =>
      have unowned := h.stackOwned.unowned ended
      simp only [List.forall_mem_append, List.forall_mem_map] at unowned
      have absent : ∀ a ∈ w.selectors, (a.stackSubscription == id) = false := fun a ha =>
        beq_eq_false_iff_ne.2 (unowned.1 a ha)
      rw [serveStack, actOnSelector_eq_none_iff.2 absent, Option.getD_none]
    | listener l => cases view

/-! ## Leaving and joining -/

/-- Whoever is called `id` leaves with all subscriptions made for it, and everything else stays.
Whoever joins does so as if an earlier one of its name had left before, and is then the only one. -/
structure Orderly (w : Workbench) : Prop where
  detachField : ∀ kind id,
    let gone := (w.fields kind).filter (·.id == id)
    w.detachField kind id =
      (!gone.isEmpty, ({ w with
        projects := w.projects.without (gone.map (·.subscription)) } : Workbench).setFields kind
          ((w.fields kind).filter (·.id != id)))
  attachField : ∀ kind id,
    let left := (w.detachField kind id).2
    let joined : Attached kind.Field := ⟨id, w.projects.nextId, kind.attach w.board⟩
    w.attachField kind id =
        ((w.detachField kind id).1, ({ left with
          projects := left.projects.subscribe (.field kind) } : Workbench).setFields kind
            (left.fields kind ++ [joined])) ∧
      ((w.attachField kind id).2.fields kind).filter (·.id == id) = [joined]
  detachSelector : ∀ id,
    let gone := w.selectors.filter (·.id == id)
    w.detachSelector id =
      (!gone.isEmpty, { w with
        selectors := w.selectors.filter (·.id != id)
        projects := w.projects.without (gone.map (·.subscription))
        stackChanges := w.stackChanges.without (gone.map (·.stackSubscription)) })
  attachSelector : ∀ id,
    let left := (w.detachSelector id).2
    let joined : AttachedSelector :=
      ⟨⟨id, w.projects.nextId, Selector.attach w.board⟩, w.stackChanges.nextId⟩
    w.attachSelector id =
        ((w.detachSelector id).1, { left with
          selectors := left.selectors ++ [joined]
          projects := left.projects.subscribe .selector
          stackChanges := left.stackChanges.subscribe .selector }) ∧
      (w.attachSelector id).2.selectors.filter (·.id == id) = [joined]

/-- Where a label tells all elements apart, only one has that of `a`. -/
theorem filter_same_label {α β : Type} [DecidableEq β] {f : α → β} {l : List α} {a : α}
    (h : (l.map f).Nodup) (ha : a ∈ l) : l.filter (f · == f a) = [a] := by
  obtain ⟨before, after, rfl⟩ := List.append_of_mem ha
  rw [List.map_append, List.map_cons, List.nodup_append, List.nodup_cons] at h
  have none_before : ∀ x ∈ before, ¬ (f x == f a) = true := fun x hx same =>
    h.2.2 _ (List.mem_map_of_mem hx) _ List.mem_cons_self (eq_of_beq same)
  have none_after : ∀ x ∈ after, ¬ (f x == f a) = true := fun x hx same =>
    h.2.1.1 (List.mem_map.2 ⟨x, hx, eq_of_beq same⟩)
  rw [List.filter_append, List.filter_eq_nil_iff.2 none_before, List.filter_cons,
    if_pos (beq_self_eq_true _), List.filter_eq_nil_iff.2 none_after, List.nil_append]

/-- When those of a label have left, one that joins is the only one. -/
theorem filter_joined {α β : Type} [DecidableEq β] {f : α → β} (l : List α) (a : α) :
    (l.filter (f · != f a) ++ [a]).filter (f · == f a) = [a] := by
  have none_left : (l.filter (f · != f a)).filter (f · == f a) = [] := by
    refine List.filter_eq_nil_iff.2 fun x hx same => ?_
    exact bne_iff_ne.1 (List.mem_filter.1 hx).2 (eq_of_beq same)
  rw [List.filter_append, none_left, List.nil_append, List.filter_cons,
    if_pos (beq_self_eq_true _), List.filter_nil]

namespace Accounted

theorem detachField_eq (h : Accounted joining joiningStack w) (kind : FieldKind) (id : String) :
    let gone := (w.fields kind).filter (·.id == id)
    w.detachField kind id =
      (!gone.isEmpty, ({ w with
        projects := w.projects.without (gone.map (·.subscription)) } : Workbench).setFields kind
          ((w.fields kind).filter (·.id != id))) := by
  intro gone
  cases found : (w.fields kind).find? (·.id == id) with
  | some a =>
    obtain rfl : a.id = id := by simpa using List.find?_some found
    have present := List.mem_of_find?_eq_some found
    have alone : gone = [a] := filter_same_label (f := fun x : Attached kind.Field => x.id)
      (h.fieldIds kind) present
    rw [detachField_some found, alone, List.map_singleton, Channel.without_singleton,
      h.filter_fields present]
    rfl
  | none =>
    have nobody : gone = [] := List.filter_eq_nil_iff.2 (List.find?_eq_none.1 found)
    rw [detachField_none found, nobody, List.map_nil, Channel.without_nil, filter_absent found]
    exact congrArg (Prod.mk false) (setFields_fields w kind).symm

theorem detachSelector_eq (h : Accounted joining joiningStack w) (id : String) :
    let gone := w.selectors.filter (·.id == id)
    w.detachSelector id =
      (!gone.isEmpty, { w with
        selectors := w.selectors.filter (·.id != id)
        projects := w.projects.without (gone.map (·.subscription))
        stackChanges := w.stackChanges.without (gone.map (·.stackSubscription)) }) := by
  intro gone
  cases found : w.selectors.find? (·.id == id) with
  | some a =>
    obtain rfl : a.id = id := by simpa using List.find?_some found
    have present := List.mem_of_find?_eq_some found
    have alone : gone = [a] := filter_same_label (f := fun x : AttachedSelector => x.id)
      h.selectorIds present
    have left : w.selectors.filter (·.subscription != a.subscription) =
        w.selectors.filter (·.id != a.id) := filter_label h.numbers.1 h.selectorIds present
    rw [detachSelector_some found, alone, List.map_singleton, List.map_singleton,
      Channel.without_singleton, Channel.without_singleton, left]
    rfl
  | none =>
    have nobody : gone = [] := List.filter_eq_nil_iff.2 (List.find?_eq_none.1 found)
    rw [detachSelector_none found, nobody, List.map_nil, List.map_nil, Channel.without_nil,
      Channel.without_nil, filter_absent found]
    rfl

/-- The number of a field that is there is not given again. -/
theorem nextId_ne {kind : FieldKind} {a : Attached kind.Field}
    (h : Accounted joining joiningStack w) (ha : a ∈ w.fields kind) :
    w.projects.nextId ≠ a.subscription :=
  Nat.ne_of_gt (((owned_iff kind).1 h.projects).given _
    (List.mem_append_left _ (List.mem_map_of_mem ha)))

theorem nextId_ne_selector {a : AttachedSelector} (h : Accounted joining joiningStack w)
    (ha : a ∈ w.selectors) :
    w.projects.nextId ≠ a.subscription ∧ w.stackChanges.nextId ≠ a.stackSubscription :=
  ⟨Nat.ne_of_gt ((owned_iff_selectors.1 h.projects).given _
      (List.mem_append_left _ (List.mem_map_of_mem ha))),
    Nat.ne_of_gt (h.stackOwned.given _ (List.mem_append_left _ (List.mem_map_of_mem ha)))⟩

theorem attachField_eq (h : Accounted joining joiningStack w) (kind : FieldKind) (id : String) :
    let left := (w.detachField kind id).2
    w.attachField kind id =
      ((w.detachField kind id).1, ({ left with
        projects := left.projects.subscribe (.field kind) } : Workbench).setFields kind
          (left.fields kind ++ [⟨id, w.projects.nextId, kind.attach w.board⟩])) := by
  intro left
  let v : Workbench := { w with projects := w.projects.subscribe (.field kind) }
  -- The newcomer has a number of its own, so it may as well subscribe after the other has left.
  have commutes : v.detachField kind id = ((w.detachField kind id).1,
      { left with projects := left.projects.subscribe (.field kind) }) := by
    cases found : (w.fields kind).find? (·.id == id) with
    | some a =>
      have other := h.nextId_ne (List.mem_of_find?_eq_some found)
      have found' : (v.fields kind).find? (·.id == id) = some a := found
      simp only [left, detachField_some found, detachField_some found', v,
        Channel.unsubscribe_subscribe other]
      cases kind <;> rfl
    | none =>
      have found' : (v.fields kind).find? (·.id == id) = none := found
      simp only [left, detachField_none found, detachField_none found', v]
  have joins : w.attachField kind id =
      ((v.detachField kind id).1, (v.detachField kind id).2.setFields kind
        ((v.detachField kind id).2.fields kind ++
          [⟨id, w.projects.nextId, kind.attach w.board⟩])) := rfl
  rw [joins, commutes]
  rfl

theorem attachSelector_eq (h : Accounted joining joiningStack w) (id : String) :
    let left := (w.detachSelector id).2
    w.attachSelector id =
      ((w.detachSelector id).1, { left with
        selectors := left.selectors ++
          [⟨⟨id, w.projects.nextId, Selector.attach w.board⟩, w.stackChanges.nextId⟩]
        projects := left.projects.subscribe .selector
        stackChanges := left.stackChanges.subscribe .selector }) := by
  intro left
  let v : Workbench := { w with
    stackChanges := w.stackChanges.subscribe .selector
    projects := w.projects.subscribe .selector }
  have commutes : v.detachSelector id = ((w.detachSelector id).1, { left with
      projects := left.projects.subscribe .selector
      stackChanges := left.stackChanges.subscribe .selector }) := by
    cases found : w.selectors.find? (·.id == id) with
    | some a =>
      obtain ⟨other, otherStack⟩ := h.nextId_ne_selector (List.mem_of_find?_eq_some found)
      have found' : v.selectors.find? (·.id == id) = some a := found
      simp only [left, detachSelector_some found, detachSelector_some found', v,
        Channel.unsubscribe_subscribe other, Channel.unsubscribe_subscribe otherStack]
    | none =>
      have found' : v.selectors.find? (·.id == id) = none := found
      simp only [left, detachSelector_none found, detachSelector_none found', v]
  have joins : w.attachSelector id =
      ((v.detachSelector id).1, { (v.detachSelector id).2 with
        selectors := (v.detachSelector id).2.selectors ++
          [⟨⟨id, w.projects.nextId, Selector.attach w.board⟩, w.stackChanges.nextId⟩] }) := rfl
  rw [joins, commutes]

/-- Who leaves or joins does so in order, once all is accounted for. -/
theorem orderly (h : Accounted [] [] w) : w.Orderly where
  detachField := h.detachField_eq
  attachField kind id := by
    intro left joined
    refine ⟨h.attachField_eq kind id, ?_⟩
    rw [h.attachField_eq kind id, fields_setFields, h.detachField_fields kind id]
    exact filter_joined (f := fun x : Attached kind.Field => x.id) _ joined
  detachSelector := h.detachSelector_eq
  attachSelector id := by
    intro left joined
    refine ⟨h.attachSelector_eq id, ?_⟩
    rw [h.attachSelector_eq id, h.detachSelector_selectors id]
    exact filter_joined (f := fun x : AttachedSelector => x.id) _ joined

end Accounted

end ProjectPicker.Workbench
