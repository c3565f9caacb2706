import ProjectPicker.Form.Json
import ProjectPicker.Proofs.Form
import ProjectPicker.Proofs.Json.Reading

/-!
# The order of members

* `Reordered` : a value whose objects, at any depth, have their members in another order;
* `Reordered.eq_of_scalar`, `Reordered.array_items`, `Reordered.object_members` : what becomes of a
  value of each kind;
* `form_shows` : as a form, JSON shows a value whatever the order of members.
-/

set_option autoImplicit false

namespace ProjectPicker.Json

/-- The second value is the first with the members of its objects, at any depth, in another
order. -/
inductive Reordered : Json → Json → Prop
  | refl (j : Json) : Reordered j j
  | trans {i j k : Json} : Reordered i j → Reordered j k → Reordered i k
  /-- The members of an object change places. -/
  | members {ms ms' : List (Json × Json)} : ms.Perm ms' → Reordered (.object ms) (.object ms')
  /-- It happens inside an item of an array. -/
  | item (before after : List Json) {j j' : Json} : Reordered j j' →
    Reordered (.array (before ++ j :: after)) (.array (before ++ j' :: after))
  /-- It happens inside the value of a member. -/
  | member (before after : List (Json × Json)) (key : Json) {j j' : Json} : Reordered j j' →
    Reordered (.object (before ++ (key, j) :: after)) (.object (before ++ (key, j') :: after))

namespace Reordered

theorem eq_of_scalar {j j' : Json} (h : Reordered j j') (no_array : ∀ items, j ≠ .array items)
    (no_object : ∀ ms, j ≠ .object ms) : j' = j := by
  induction h with
  | refl j => rfl
  | trans _ _ ih ih' =>
    obtain rfl := ih no_array no_object
    exact ih' no_array no_object
  | members _ => exact (no_object _ rfl).elim
  | item _ _ _ => exact (no_array _ rfl).elim
  | member _ _ _ _ => exact (no_object _ rfl).elim

theorem forall₂_trans {α : Type} {R : α → α → Prop}
    (trans : ∀ {a b c}, R a b → R b c → R a c) {as bs cs : List α} (h : List.Forall₂ R as bs)
    (h' : List.Forall₂ R bs cs) : List.Forall₂ R as cs := by
  induction h generalizing cs with
  | nil => exact h'
  | cons first _ ih =>
    obtain _ | ⟨first', others'⟩ := h'
    exact .cons (trans first first') (ih others')

theorem forall₂_refl (items : List Json) : List.Forall₂ Reordered items items :=
  List.forall₂_same.2 fun j _ => .refl j

theorem array_items {items : List Json} {j : Json} (h : Reordered (.array items) j) :
    ∃ items', j = .array items' ∧ List.Forall₂ Reordered items items' := by
  generalize start : Json.array items = i at h
  induction h generalizing items with
  | refl j => exact ⟨items, start.symm, forall₂_refl items⟩
  | trans _ _ ih ih' =>
    obtain ⟨middle, rfl, first⟩ := ih start
    obtain ⟨last, rfl, second⟩ := ih' rfl
    exact ⟨last, rfl, forall₂_trans .trans first second⟩
  | item before after inner =>
    cases start
    exact ⟨_, rfl, List.rel_append (forall₂_refl before) (.cons inner (forall₂_refl after))⟩
  | members _ => cases start
  | member _ _ _ _ => cases start

def Member (m m' : Json × Json) : Prop := m.1 = m'.1 ∧ Reordered m.2 m'.2

theorem Member.refl (m : Json × Json) : Member m m := ⟨rfl, .refl m.2⟩

theorem Member.trans {m m' m'' : Json × Json} (h : Member m m') (h' : Member m' m'') :
    Member m m'' :=
  ⟨h.1.trans h'.1, h.2.trans h'.2⟩

theorem object_members {ms : List (Json × Json)} {j : Json} (h : Reordered (.object ms) j) :
    ∃ ordered ms', j = .object ms' ∧ ms.Perm ordered ∧ List.Forall₂ Member ordered ms' := by
  generalize start : Json.object ms = i at h
  induction h generalizing ms with
  | refl j => exact ⟨ms, ms, start.symm, .refl ms, List.forall₂_same.2 fun m _ => .refl m⟩
  | trans _ _ ih ih' =>
    obtain ⟨ordered, ms₁, rfl, perm, first⟩ := ih start
    obtain ⟨ordered', ms₂, rfl, perm', second⟩ := ih' rfl
    -- The second change of places is made first.
    obtain ⟨middle, perm', first'⟩ := (congrFun₂ List.forall₂_comp_perm_eq_perm_comp_forall₂
      ordered ordered').mp ⟨ms₁, first, perm'⟩
    exact ⟨middle, ms₂, rfl, perm.trans perm', forall₂_trans .trans first' second⟩
  | members perm =>
    cases start
    exact ⟨_, _, rfl, perm, List.forall₂_same.2 fun m _ => .refl m⟩
  | member before after key inner =>
    cases start
    refine ⟨_, _, rfl, .refl _, List.rel_append (List.forall₂_same.2 fun m _ => .refl m)
      (.cons ⟨rfl, inner⟩ (List.forall₂_same.2 fun m _ => .refl m))⟩
  | item _ _ _ => cases start

end Reordered

theorem Numberless.reordered {j j' : Json} (h : Reordered j j') (plain : Numberless j) :
    Numberless j' := by
  induction h with
  | refl j => exact plain
  | trans _ _ ih ih' => exact ih' (ih plain)
  | members perm =>
    obtain ⟨⟩ | ⟨⟩ | ⟨⟩ | ⟨⟩ | ⟨named, values⟩ := plain
    exact .object (fun m hm => named m (perm.mem_iff.2 hm)) fun m hm => values m (perm.mem_iff.2 hm)
  | item before after _ ih =>
    obtain ⟨⟩ | ⟨⟩ | ⟨⟩ | items := plain
    rw [List.forall_mem_append, List.forall_mem_cons] at items
    refine .array (List.forall_mem_append.2 ⟨items.1, List.forall_mem_cons.2 ⟨?_, items.2.2⟩⟩)
    exact ih items.2.1
  | member before after key _ ih =>
    obtain ⟨⟩ | ⟨⟩ | ⟨⟩ | ⟨⟩ | ⟨named, values⟩ := plain
    rw [List.forall_mem_append, List.forall_mem_cons] at named values
    refine .object (List.forall_mem_append.2 ⟨named.1, List.forall_mem_cons.2 named.2⟩)
      (List.forall_mem_append.2 ⟨values.1, List.forall_mem_cons.2 ⟨?_, values.2.2⟩⟩)
    exact ih values.2.1

/-- The members of a record are found again, in some order. -/
theorem Reordered.record_members {ms : List (String × Json)} {j : Json}
    (h : Reordered (.record ms) j) : ∃ es, j = .object es ∧ Form.Entries Reordered ms es := by
  obtain ⟨ordered, es, rfl, placed, members⟩ := h.object_members
  obtain ⟨named, rfl, perm⟩ := (congrFun₂ (List.eq_map_comp_perm
    fun m : String × Json => (Json.str m.1, m.2)) ordered ms).mpr placed.symm
  refine ⟨es, rfl, named, perm.symm, (List.forall₂_map_left_iff.1 members).imp ?_⟩
  exact fun m e member => ⟨member.1 ▸ .refl _, member.2⟩

/-- As a form, JSON shows a value whatever the order of members. -/
theorem form_shows : form.Shows Reordered where
  text h := by
    rw [h.eq_of_scalar (by simp [str]) (by simp [str])]
    rfl
  fieldName h := by
    rw [h.eq_of_scalar (by simp [str]) (by simp [str])]
    rfl
  items h := by
    obtain ⟨items, rfl, reordered⟩ := h.array_items
    exact ⟨items, rfl, reordered⟩
  entries h := by
    obtain ⟨es, rfl, entries⟩ := h.record_members
    exact ⟨es, rfl, entries⟩
  fields h := by
    obtain ⟨es, rfl, entries⟩ := h.record_members
    exact ⟨es, rfl, entries⟩
  present h := by
    obtain ⟨es, rfl, -⟩ := h.record_members
    rfl

end ProjectPicker.Json
