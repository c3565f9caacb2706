import ProjectPicker.Proofs.Channel.Owned
import ProjectPicker.Proofs.Workbench.Selectors

/-!
# Who owns the subscriptions of a workbench

* `Workbench.projectOwners`, `Workbench.stackOwners` : the views that are attached and the listeners
  that are held, with the numbers of their subscriptions;
* `Workbench.Accounted` : both channels are owned by these, and perhaps by some who are joining, and
  no two of a kind share a name;
* `Accounted.joinProjects`, `Accounted.joinStack` : a new subscription is that of one who is
  joining;
* `Accounted.detachField`, `Accounted.attachField` and so on : whoever leaves takes the
  subscriptions along, and whoever joins owns those that were made;
* `stable_accounted` : so nothing that a workbench does leaves a subscription behind.
-/

set_option autoImplicit false

namespace ProjectPicker.Workbench

/-! ## The owners in a workbench -/

/-- What a subscriber is to a workbench. -/
inductive Role where
  | field (kind : FieldKind)
  | selector
  | listener (name : String)
  deriving DecidableEq

def ProjectSubscriber.role : ProjectSubscriber → Role
  | .field kind => .field kind
  | .selector => .selector
  | .listener l => .listener l.name

def StackSubscriber.role : StackSubscriber → Role
  | .selector => .selector
  | .listener l => .listener l.name

/-- The listeners held on a topic, with the numbers of their subscriptions. -/
def listenersOn (topic : Topic) (held : List (String × Topic × Nat)) : List (Nat × Role) :=
  held.filterMap fun (name, t, id) => if t = topic then some (id, .listener name) else none

def Attached.owner {φ : Type} (role : Role) (a : Attached φ) : Nat × Role := (a.subscription, role)

def AttachedSelector.owner (a : AttachedSelector) : Nat × Role := a.toAttached.owner .selector

/-- A selector owns its subscription to the stack changes as well. -/
def AttachedSelector.stackOwner (a : AttachedSelector) : Nat × Role :=
  (a.stackSubscription, .selector)

def projectOwners (w : Workbench) : List (Nat × Role) :=
  w.gitFields.map (Attached.owner (.field .git)) ++
    (w.zipFields.map (Attached.owner (.field .zip)) ++
      (w.selectors.map AttachedSelector.owner ++ listenersOn .projects w.held))

def stackOwners (w : Workbench) : List (Nat × Role) :=
  w.selectors.map AttachedSelector.stackOwner ++ listenersOn .stackChanges w.held

/-- Who is subscribed to the added projects, apart from the fields of a kind. -/
def otherOwners (w : Workbench) (kind : FieldKind) : List (Nat × Role) :=
  (w.setFields kind []).projectOwners

/-- The subscriptions of both channels are those of the views that are attached and of the listeners
that are held, and of some who are joining. No two of a kind share a name. -/
structure Accounted (joining joiningStack : List (Nat × Role)) (w : Workbench) : Prop where
  projects : w.projects.Owned ProjectSubscriber.role (w.projectOwners ++ joining)
  stackChanges : w.stackChanges.Owned StackSubscriber.role (w.stackOwners ++ joiningStack)
  fieldIds : ∀ kind, ((w.fields kind).map (·.id)).Nodup
  selectorIds : (w.selectors.map (·.id)).Nodup
  names : (w.held.map Prod.fst).Nodup

variable {w w' : Workbench} {joining joiningStack : List (Nat × Role)} {b b' : Board}

theorem accounted_start (stackList : List Stack) : Accounted [] [] (start stackList) where
  projects := .empty
  stackChanges := .empty
  fieldIds kind := by cases kind <;> exact List.nodup_nil
  selectorIds := List.nodup_nil
  names := List.nodup_nil

theorem Accounted.elsewhere {board : Board} {editors : List (String × Editor)}
    {log : List LogEntry} (h : Accounted joining joiningStack w) :
    Accounted joining joiningStack { w with board, editors, log } :=
  ⟨h.projects, h.stackChanges, h.fieldIds, h.selectorIds, h.names⟩

/-- Whoever subscribes to the added projects is joining. -/
theorem Accounted.joinProjects (h : Accounted [] joiningStack w) (who : ProjectSubscriber) :
    Accounted [(w.projects.nextId, who.role)] joiningStack
      { w with projects := w.projects.subscribe who } := by
  refine ⟨?_, h.stackChanges, h.fieldIds, h.selectorIds, h.names⟩
  have owned := h.projects.subscribe who
  rwa [List.append_nil] at owned

theorem Accounted.joinStack (h : Accounted joining [] w) (who : StackSubscriber) :
    Accounted joining [(w.stackChanges.nextId, who.role)]
      { w with stackChanges := w.stackChanges.subscribe who } := by
  refine ⟨h.projects, ?_, h.fieldIds, h.selectorIds, h.names⟩
  have owned := h.stackChanges.subscribe who
  rwa [List.append_nil] at owned

/-! ## Fields -/

section Fields

variable {kind : FieldKind} {views : List (Attached kind.Field)}
  {projects : Channel ProjectSubscriber}

theorem projectOwners_perm (w : Workbench) (kind : FieldKind) :
    w.projectOwners.Perm
      ((w.fields kind).map (Attached.owner (.field kind)) ++ w.otherOwners kind) := by
  cases kind with
  | git => exact .refl _
  | zip => exact List.perm_append_comm_assoc ..

theorem owned_iff {c : Channel ProjectSubscriber} (kind : FieldKind) :
    c.Owned ProjectSubscriber.role (w.projectOwners ++ joining) ↔
      c.Owned ProjectSubscriber.role
        ((w.fields kind).map (Attached.owner (.field kind)) ++
          (w.otherOwners kind ++ joining)) := by
  have same := (projectOwners_perm w kind).append_right joining
  rw [List.append_assoc] at same
  exact ⟨fun h => h.perm same, fun h => h.perm same.symm⟩

/-- The fields of a kind may change along with the channel, if they own what the others do not. -/
theorem Accounted.setFields {more : List (Nat × Role)} (h : Accounted joining joiningStack w)
    (owned : projects.Owned ProjectSubscriber.role
      (views.map (Attached.owner (.field kind)) ++ (w.otherOwners kind ++ more)))
    (ids : (views.map (·.id)).Nodup) :
    Accounted more joiningStack (({ w with projects } : Workbench).setFields kind views) := by
  cases kind with
  | git =>
    refine ⟨(owned_iff .git).2 owned, h.stackChanges, fun other => ?_, h.selectorIds, h.names⟩
    cases other with
    | git => exact ids
    | zip => exact h.fieldIds .zip
  | zip =>
    refine ⟨(owned_iff .zip).2 owned, h.stackChanges, fun other => ?_, h.selectorIds, h.names⟩
    cases other with
    | git => exact h.fieldIds .git
    | zip => exact ids

end Fields

/-- Where two labels tell all elements apart, those that differ from one in the one label are those
that differ from it in the other. -/
theorem filter_label {α β γ : Type} [DecidableEq β] [DecidableEq γ] {f : α → β} {g : α → γ}
    {l : List α} {a : α} (hf : (l.map f).Nodup) (hg : (l.map g).Nodup) (ha : a ∈ l) :
    l.filter (f · != f a) = l.filter (g · != g a) := by
  refine List.filter_congr fun x hx => ?_
  have same : f x = f a ↔ g x = g a := by
    constructor
    · intro label
      rw [List.inj_on_of_nodup_map hf hx ha label]
    · intro label
      rw [List.inj_on_of_nodup_map hg hx ha label]
  rw [Bool.eq_iff_iff, bne_iff_ne, bne_iff_ne]
  exact not_congr same

theorem filter_absent {α β : Type} [DecidableEq β] {f : α → β} {l : List α} {label : β}
    (absent : l.find? (f · == label) = none) : l.filter (f · != label) = l :=
  List.filter_eq_self.2 fun x hx => by simpa using List.find?_eq_none.1 absent x hx

/-- One that has left may be replaced by another of its label. -/
theorem nodup_replace {α β : Type} [DecidableEq β] {f : α → β} {l : List α} {a : α}
    (h : (l.map f).Nodup) : ((l.filter (f · != f a) ++ [a]).map f).Nodup := by
  rw [List.map_append, List.nodup_append]
  refine ⟨h.sublist (List.filter_sublist.map f), List.nodup_singleton _, ?_⟩
  intro label mem label' mem'
  obtain ⟨x, hx, rfl⟩ := List.mem_map.1 mem
  rw [List.mem_singleton.1 mem']
  exact bne_iff_ne.1 (List.mem_filter.1 hx).2

namespace Accounted

theorem filter_fields {kind : FieldKind} {a : Attached kind.Field}
    (h : Accounted joining joiningStack w) (ha : a ∈ w.fields kind) :
    (w.fields kind).filter (·.subscription != a.subscription) =
      (w.fields kind).filter (·.id != a.id) := by
  have distinct := ((owned_iff kind).1 h.projects).distinct
  rw [List.map_append, List.map_map, List.nodup_append] at distinct
  exact filter_label distinct.1 (h.fieldIds kind) ha

theorem detachField_fields (h : Accounted joining joiningStack w) (kind : FieldKind)
    (id : String) :
    (w.detachField kind id).2.fields kind = (w.fields kind).filter (·.id != id) := by
  cases found : (w.fields kind).find? (·.id == id) with
  | some a =>
    obtain rfl : a.id = id := by simpa using List.find?_some found
    rw [detachField_some found, fields_setFields,
      h.filter_fields (List.mem_of_find?_eq_some found)]
  | none => rw [detachField_none found, filter_absent found]

theorem detachField (h : Accounted joining joiningStack w) (kind : FieldKind) (id : String) :
    Accounted joining joiningStack (w.detachField kind id).2 := by
  unfold Workbench.detachField
  split
  · next a found =>
    refine h.setFields ?_ ((h.fieldIds kind).sublist (List.filter_sublist.map _))
    exact ((owned_iff kind).1 h.projects).leaves (Attached.owner (.field kind))
      (List.mem_of_find?_eq_some found)
  · exact h

theorem attachField (h : Accounted [] [] w) (kind : FieldKind) (id : String) :
    Accounted [] [] (w.attachField kind id).2 := by
  let v : Workbench := { w with projects := w.projects.subscribe (.field kind) }
  let joined : Attached kind.Field := ⟨id, w.projects.nextId, kind.attach w.board⟩
  have made : Accounted [(w.projects.nextId, .field kind)] [] v := h.joinProjects (.field kind)
  have left := made.detachField kind id
  have ids : (((v.detachField kind id).2.fields kind ++ [joined]).map (·.id)).Nodup := by
    rw [made.detachField_fields kind id]
    exact nodup_replace (a := joined) (h.fieldIds kind)
  refine left.setFields ?_ ids
  refine ((owned_iff kind).1 left.projects).perm ?_
  rw [List.map_append, List.append_nil, List.append_assoc]
  exact List.perm_append_comm.append_left _

theorem actOnField {kind : FieldKind} {p : Attached kind.Field → Bool}
    {act : kind.Field → Board → kind.Field × Board} (h : Accounted joining joiningStack w)
    (acted : w.actOnField kind p act = some w') : Accounted joining joiningStack w' := by
  obtain ⟨views, board, here, rfl⟩ := actOnField_eq_some acted
  have owners : views.map (Attached.owner (.field kind)) =
      (w.fields kind).map (Attached.owner (.field kind)) := actOn_map (fun _ _ => rfl) here
  have ids : views.map (·.id) = (w.fields kind).map (·.id) := actOn_map (fun _ _ => rfl) here
  have moved : Accounted joining joiningStack { w with board } := h.elsewhere
  refine moved.setFields ?_ ?_
  · rw [owners]
    exact (owned_iff kind).1 moved.projects
  · rw [ids]
    exact h.fieldIds kind

end Accounted

/-! ## Selectors -/

section Selectors

variable {selectors : List AttachedSelector}

def ownersBesides (w : Workbench) : List (Nat × Role) :=
  ({ w with selectors := [] } : Workbench).projectOwners

theorem owned_iff_selectors {c : Channel ProjectSubscriber} :
    c.Owned ProjectSubscriber.role (w.projectOwners ++ joining) ↔
      c.Owned ProjectSubscriber.role
        (w.selectors.map AttachedSelector.owner ++ (w.ownersBesides ++ joining)) := by
  have same : ∀ o, (w.projectOwners ++ joining).count o =
      (w.selectors.map AttachedSelector.owner ++ (w.ownersBesides ++ joining)).count o := by
    intro o
    simp only [ownersBesides, projectOwners, List.map_nil, List.count_append, List.count_nil]
    omega
  exact ⟨fun h => h.of_count same, fun h => h.of_count fun o => (same o).symm⟩

/-- The selectors may change along with both channels, if they own what the others do not. -/
theorem Accounted.setSelectors {more moreStack : List (Nat × Role)}
    {projects : Channel ProjectSubscriber} {stackChanges : Channel StackSubscriber}
    (h : Accounted joining joiningStack w)
    (owned : projects.Owned ProjectSubscriber.role
      (selectors.map AttachedSelector.owner ++ (w.ownersBesides ++ more)))
    (ownedStack : stackChanges.Owned StackSubscriber.role
      (selectors.map AttachedSelector.stackOwner ++
        (listenersOn .stackChanges w.held ++ moreStack)))
    (ids : (selectors.map (·.id)).Nodup) :
    Accounted more moreStack { w with selectors, projects, stackChanges } := by
  refine ⟨owned_iff_selectors.2 owned, ?_, h.fieldIds, ids, h.names⟩
  rw [stackOwners, List.append_assoc]
  exact ownedStack

end Selectors

namespace Accounted

theorem stackOwned (h : Accounted joining joiningStack w) :
    w.stackChanges.Owned StackSubscriber.role
      (w.selectors.map AttachedSelector.stackOwner ++
        (listenersOn .stackChanges w.held ++ joiningStack)) := by
  have owned := h.stackChanges
  rwa [stackOwners, List.append_assoc] at owned

theorem numbers (h : Accounted joining joiningStack w) :
    (w.selectors.map (·.subscription)).Nodup ∧ (w.selectors.map (·.stackSubscription)).Nodup := by
  have distinct := (owned_iff_selectors.1 h.projects).distinct
  have distinctStack := h.stackOwned.distinct
  rw [List.map_append, List.map_map, List.nodup_append] at distinct distinctStack
  exact ⟨distinct.1, distinctStack.1⟩

theorem detachSelector_selectors (h : Accounted joining joiningStack w) (id : String) :
    (w.detachSelector id).2.selectors = w.selectors.filter (·.id != id) := by
  cases found : w.selectors.find? (·.id == id) with
  | some a =>
    obtain rfl : a.id = id := by simpa using List.find?_some found
    rw [detachSelector_some found]
    exact filter_label h.numbers.1 h.selectorIds (List.mem_of_find?_eq_some found)
  | none => rw [detachSelector_none found, filter_absent found]

theorem detachSelector (h : Accounted joining joiningStack w) (id : String) :
    Accounted joining joiningStack (w.detachSelector id).2 := by
  unfold Workbench.detachSelector
  split
  · next a found =>
    have present := List.mem_of_find?_eq_some found
    refine h.setSelectors ?_ ?_ (h.selectorIds.sublist (List.filter_sublist.map _))
    · exact (owned_iff_selectors.1 h.projects).leaves AttachedSelector.owner present
    · rw [filter_label (f := fun x : AttachedSelector => x.subscription)
        (g := fun x : AttachedSelector => x.stackSubscription) h.numbers.1 h.numbers.2 present]
      exact h.stackOwned.leaves AttachedSelector.stackOwner present
  · exact h

theorem attachSelector (h : Accounted [] [] w) (id : String) :
    Accounted [] [] (w.attachSelector id).2 := by
  let v : Workbench := { w with
    stackChanges := w.stackChanges.subscribe .selector
    projects := w.projects.subscribe .selector }
  let joined : AttachedSelector :=
    ⟨⟨id, w.projects.nextId, Selector.attach w.board⟩, w.stackChanges.nextId⟩
  have made : Accounted [(w.projects.nextId, .selector)] [(w.stackChanges.nextId, .selector)]
      v := (h.joinStack .selector).joinProjects .selector
  have left := made.detachSelector id
  have ids : (((v.detachSelector id).2.selectors ++ [joined]).map (·.id)).Nodup := by
    rw [made.detachSelector_selectors id]
    exact nodup_replace (a := joined) h.selectorIds
  refine left.setSelectors ((owned_iff_selectors.1 left.projects).perm ?_)
    (left.stackOwned.perm ?_) ids
  all_goals
    rw [List.map_append, List.append_nil, List.append_assoc]
    exact List.perm_append_comm.append_left _

theorem actOnSelector {p : AttachedSelector → Bool} {act : Selector → Board → Selector × Board}
    (h : Accounted joining joiningStack w) (acted : w.actOnSelector p act = some w') :
    Accounted joining joiningStack w' := by
  obtain ⟨⟨selectors, board⟩, here, rfl⟩ := Option.map_eq_some_iff.1 acted
  have owners : selectors.map AttachedSelector.owner = w.selectors.map AttachedSelector.owner :=
    actOn_map (fun _ _ => rfl) here
  have stackOwners : selectors.map AttachedSelector.stackOwner =
      w.selectors.map AttachedSelector.stackOwner := actOn_map (fun _ _ => rfl) here
  have ids : selectors.map (·.id) = w.selectors.map (·.id) := actOn_map (fun _ _ => rfl) here
  have moved : Accounted joining joiningStack { w with board } := h.elsewhere
  refine moved.setSelectors ?_ ?_ ?_
  · rw [owners]
    exact owned_iff_selectors.1 moved.projects
  · rw [stackOwners]
    exact moved.stackOwned
  · rw [ids]
    exact h.selectorIds

end Accounted

/-! ## Listeners -/

theorem listenersOn_append (topic : Topic) (before after : List (String × Topic × Nat)) :
    listenersOn topic (before ++ after) = listenersOn topic before ++ listenersOn topic after :=
  List.filterMap_append

theorem listenersOn_cons_of_eq (topic : Topic) (name : String) (id : Nat)
    (after : List (String × Topic × Nat)) :
    listenersOn topic ((name, topic, id) :: after) =
      (id, .listener name) :: listenersOn topic after :=
  List.filterMap_cons_some (if_pos rfl)

theorem listenersOn_cons_of_ne {topic other : Topic} (elsewhere : topic ≠ other) (name : String)
    (id : Nat) (after : List (String × Topic × Nat)) :
    listenersOn other ((name, topic, id) :: after) = listenersOn other after :=
  List.filterMap_cons_none (if_neg elsewhere)

/-- What is held under a name is held once. -/
theorem release_held {name : String} {topic : Topic} {id : Nat}
    (names : (w.held.map Prod.fst).Nodup) (found : w.held.lookup name = some (topic, id)) :
    ∃ before after, w.held = before ++ (name, topic, id) :: after ∧
      w.held.filter (·.1 != name) = before ++ after := by
  obtain ⟨before, after, split, earlier⟩ := List.lookup_eq_some_iff.1 found
  refine ⟨before, after, split, ?_⟩
  rw [split, List.map_append, List.map_cons, List.nodup_append, List.nodup_cons] at names
  have others_before : ∀ e ∈ before, (e.1 != name) = true := fun e he =>
    bne_iff_ne.2 (names.2.2 _ (List.mem_map_of_mem he) _ List.mem_cons_self)
  have others_after : ∀ e ∈ after, (e.1 != name) = true := fun e he =>
    bne_iff_ne.2 (ne_of_mem_of_not_mem (List.mem_map_of_mem he) names.2.1.1)
  rw [split, List.filter_append, List.filter_cons_of_neg (by simp),
    List.filter_eq_self.2 others_before, List.filter_eq_self.2 others_after]

namespace Accounted

theorem release (h : Accounted joining joiningStack w) (name : String) :
    Accounted joining joiningStack (w.release name).2 := by
  unfold Workbench.release
  split
  · next topic number found =>
    obtain ⟨before, after, split, left⟩ := release_held h.names found
    have names : ((w.held.filter (·.1 != name)).map Prod.fst).Nodup :=
      h.names.sublist (List.filter_sublist.map _)
    let fewer : Workbench := { w with held := before ++ after }
    have same (other : Topic) (elsewhere : topic ≠ other) :
        listenersOn other w.held = listenersOn other (before ++ after) := by
      rw [split, listenersOn_append, listenersOn_append, listenersOn_cons_of_ne elsewhere]
    have parts : listenersOn topic w.held = listenersOn topic before ++
        (number, .listener name) :: listenersOn topic after := by
      rw [split, listenersOn_append, listenersOn_cons_of_eq]
    cases topic with
    | projects =>
      refine ⟨?_, ?_, h.fieldIds, h.selectorIds, names⟩
      · have owned : w.projects.Owned ProjectSubscriber.role
            ([(number, Role.listener name)].map id ++ (fewer.projectOwners ++ joining)) :=
          h.projects.of_count fun o => by
            simp only [fewer, projectOwners, parts, listenersOn_append, List.map_cons, List.map_nil,
              List.count_append, List.count_cons, List.count_nil, id]
            omega
        have ends := owned.leaves id (List.mem_singleton_self _)
        simpa [projectOwners, left] using ends
      · simpa [stackOwners, left, ← same .stackChanges (by decide)] using h.stackChanges
    | stackChanges =>
      refine ⟨?_, ?_, h.fieldIds, h.selectorIds, names⟩
      · simpa [projectOwners, left, ← same .projects (by decide)] using h.projects
      · have owned : w.stackChanges.Owned StackSubscriber.role
            ([(number, Role.listener name)].map id ++ (fewer.stackOwners ++ joiningStack)) :=
          h.stackChanges.of_count fun o => by
            simp only [fewer, stackOwners, parts, listenersOn_append, List.map_cons, List.map_nil,
              List.count_append, List.count_cons, List.count_nil, id]
            omega
        have ends := owned.leaves id (List.mem_singleton_self _)
        simpa [stackOwners, left] using ends
  · exact h

theorem release_names (w : Workbench) (name : String) :
    name ∉ (w.release name).2.held.map Prod.fst := by
  have filtered : name ∉ (w.held.filter (·.1 != name)).map Prod.fst := by
    intro mem
    obtain ⟨e, he, rfl⟩ := List.mem_map.1 mem
    simpa using (List.mem_filter.1 he).2
  unfold Workbench.release
  split
  · split <;> exact filtered
  · next free =>
    intro mem
    obtain ⟨e, he, rfl⟩ := List.mem_map.1 mem
    simpa using List.lookup_eq_none_iff.1 free e he

theorem hold {name : String} {number : Nat} (topic : Topic)
    (h : Accounted (if topic = .projects then [(number, .listener name)] else [])
      (if topic = .stackChanges then [(number, .listener name)] else []) w)
    (free : name ∉ w.held.map Prod.fst) :
    Accounted [] [] { w with held := w.held ++ [(name, topic, number)] } := by
  have names : ((w.held ++ [(name, topic, number)]).map Prod.fst).Nodup := by
    rw [List.map_append, List.nodup_append]
    refine ⟨h.names, List.nodup_singleton _, fun other mem n hn => ?_⟩
    rw [List.mem_singleton.1 hn]
    exact ne_of_mem_of_not_mem mem free
  cases topic with
  | projects =>
    have other : listenersOn .stackChanges [(name, Topic.projects, number)] = [] := rfl
    refine ⟨?_, ?_, h.fieldIds, h.selectorIds, names⟩
    · simpa [projectOwners, listenersOn_append, listenersOn_cons_of_eq, listenersOn]
        using h.projects
    · simpa [stackOwners, listenersOn_append, other] using h.stackChanges
  | stackChanges =>
    have other : listenersOn .projects [(name, Topic.stackChanges, number)] = [] := rfl
    refine ⟨?_, ?_, h.fieldIds, h.selectorIds, names⟩
    · simpa [projectOwners, listenersOn_append, other] using h.projects
    · simpa [stackOwners, listenersOn_append, listenersOn_cons_of_eq, listenersOn]
        using h.stackChanges

theorem subscribe (h : Accounted [] [] w) (topic : Topic) (l : Listener) :
    Accounted [] [] (w.subscribe topic l).2 := by
  cases topic with
  | projects =>
    have made : Accounted [(w.projects.nextId, .listener l.name)] []
        { w with projects := w.projects.subscribe (.listener l) } := h.joinProjects (.listener l)
    exact (made.release l.name).hold .projects (release_names _ l.name)
  | stackChanges =>
    have made : Accounted [] [(w.stackChanges.nextId, .listener l.name)]
        { w with stackChanges := w.stackChanges.subscribe (.listener l) } :=
      h.joinStack (.listener l)
    exact (made.release l.name).hold .stackChanges (release_names _ l.name)

/-! ## Acting -/

theorem attempt {α : Type} (a : Attempt Refusal Board α) (answer : α → Answer)
    (h : Accounted joining joiningStack w) :
    Accounted joining joiningStack (Workbench.attempt a answer w).2 := by
  unfold Workbench.attempt
  split <;> exact h.elsewhere

theorem fetch {supply : Option (List Template)} (h : Accounted joining joiningStack w)
    (fetched : w.fetch supply = .ok w') : Accounted joining joiningStack w' := by
  cases supply <;> cases fetched
  exact h.elsewhere

theorem takeField (kind : FieldKind) (id : String) (action : kind.Action)
    (h : Accounted joining joiningStack w) :
    Accounted joining joiningStack (Workbench.takeField kind id action w).2 := by
  unfold Workbench.takeField
  split
  · next acted => exact h.actOnField acted
  · exact h

theorem takeSelector (id : String) (action : SelectorAction)
    (h : Accounted joining joiningStack w) :
    Accounted joining joiningStack (Workbench.takeSelector id action w).2 := by
  unfold Workbench.takeSelector
  split
  · exact h
  · split
    · exact h
    · split
      · exact h
      · next fetched =>
        have first := h.fetch fetched
        exact getD_of (fun u acted => first.actOnSelector acted) first
    · exact getD_of (fun u acted => h.actOnSelector acted) h

theorem openEditor (id : String) (t : Template) (h : Accounted joining joiningStack w) :
    Accounted joining joiningStack (Workbench.openEditor id t w).2 := by
  unfold Workbench.openEditor
  split
  · exact h.elsewhere
  · exact h

theorem takeEditor (id : String) (action : EditorAction) (h : Accounted joining joiningStack w) :
    Accounted joining joiningStack (Workbench.takeEditor id action w).2 := by
  unfold Workbench.takeEditor
  split
  · exact h
  · split
    · exact h.elsewhere
    · exact h.elsewhere
    · exact h
    · exact h
    · split <;> exact h.elsewhere

theorem takeQuiet (action : QuietAction) (h : Accounted [] [] w) :
    Accounted [] [] (Workbench.takeQuiet action w).2 := by
  cases action with
  | unsubscribe name => exact h.release name
  | fetch supply =>
    simp only [Workbench.takeQuiet]
    split
    · next fetched => exact h.fetch fetched
    · exact h
  | update old t => exact h.attempt _ _
  | remove name => exact h.attempt _ _
  | attachGit id => exact h.attachField .git id
  | detachGit id => exact h.detachField .git id
  | git id action => exact h.takeField .git id action
  | attachZip id => exact h.attachField .zip id
  | detachZip id => exact h.detachField .zip id
  | zip id action => exact h.takeField .zip id action
  | attachSelector id => exact h.attachSelector id
  | detachSelector id => exact h.detachSelector id
  | selector id action => exact h.takeSelector id action
  | openEditor id target =>
    cases target with
    | template t => exact h.openEditor id t
    | ready name =>
      simp only [Workbench.takeQuiet]
      split
      · exact h.openEditor id _
      · exact h
  | editor id action => exact h.takeEditor id action
  | _ => exact h.elsewhere

end Accounted

/-- Nothing that a workbench does leaves a subscription behind. -/
theorem stable_accounted : Stable (Accounted [] []) where
  quiet action _ h := h.takeQuiet action
  subscribe topic l _ h := h.subscribe topic l
  record _ _ h := h.elsewhere
  activate _ _ h := h.elsewhere
  takeIn _ _ h := h.elsewhere
  enterProject id _ h := { h with projects := h.projects.enter id }
  leaveProject id _ h := { h with projects := h.projects.leave id }
  enterStack id _ h := { h with stackChanges := h.stackChanges.enter id }
  leaveStack id _ h := { h with stackChanges := h.stackChanges.leave id }
  fieldHears _ _ _ _ _ acted h := h.actOnField acted
  selectorHears _ _ _ _ acted h := h.actOnSelector acted
  selectorFollows _ _ _ acted h := h.actOnSelector acted

end ProjectPicker.Workbench
