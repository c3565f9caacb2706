import Mathlib.Data.List.Nodup
import ProjectPicker.Channel

/-!
# Channels and the owners of their subscriptions

* `Channel.Owned` : the subscriptions of a channel are those of its owners, one for each;
* `Owned.subscribe`, `Owned.unsubscribe`, `Owned.leaves` : whoever subscribes becomes an owner, and
  whoever leaves is one no more;
* `Owned.unowned` : nobody owns a subscription that has ended;
* `Channel.without` : the channel when several have left.
-/

set_option autoImplicit false

namespace ProjectPicker.Channel

variable {η ρ : Type} {role : η → ρ} {owners owners' : List (Nat × ρ)} {c : Channel η} {id : Nat}

/-- The subscriptions of a channel are those of its owners: each owner has one, under the number
that it knows and in its own role, and there are no others. -/
structure Owned (role : η → ρ) (owners : List (Nat × ρ)) (c : Channel η) : Prop where
  registered : (c.subscribers.map fun x => (x.1, role x.2)).Perm owners
  distinct : (owners.map Prod.fst).Nodup
  given : ∀ o ∈ owners, o.1 < c.nextId

namespace Owned

theorem empty : Owned role [] (.empty : Channel η) :=
  ⟨.refl [], List.nodup_nil, fun _ never => by cases never⟩

theorem perm (h : c.Owned role owners) (same : owners.Perm owners') : c.Owned role owners' where
  registered := h.registered.trans same
  distinct := (same.map Prod.fst).nodup_iff.1 h.distinct
  given o ho := h.given o (same.mem_iff.2 ho)

theorem subscribe (h : c.Owned role owners) (x : η) :
    (c.subscribe x).Owned role (owners ++ [(c.nextId, role x)]) where
  registered := by
    rw [Channel.subscribe, List.map_append]
    exact h.registered.append_right _
  distinct := by
    rw [List.map_append, List.nodup_append]
    refine ⟨h.distinct, List.nodup_singleton _, fun i hi j hj => ?_⟩
    obtain ⟨o, ho, rfl⟩ := List.mem_map.1 hi
    rw [List.mem_singleton.1 hj]
    exact Nat.ne_of_lt (h.given o ho)
  given o ho := by
    obtain ho | ho := List.mem_append.1 ho
    · exact Nat.lt_succ_of_lt (h.given o ho)
    · rw [List.mem_singleton.1 ho]
      exact Nat.lt_succ_self _

theorem unsubscribe (h : c.Owned role owners) (id : Nat) :
    (c.unsubscribe id).Owned role (owners.filter (·.1 != id)) where
  registered := by
    have commutes : ((c.subscribers.filter (·.1 != id)).map fun x => (x.1, role x.2)) =
        (c.subscribers.map fun x => (x.1, role x.2)).filter (·.1 != id) := by
      rw [List.filter_map]
      rfl
    rw [Channel.unsubscribe, commutes]
    exact h.registered.filter _
  distinct := h.distinct.sublist (List.filter_sublist.map _)
  given o ho := h.given o (List.mem_filter.1 ho).1

theorem enter (h : c.Owned role owners) (id : Nat) : (c.enter id).Owned role owners :=
  ⟨h.registered, h.distinct, h.given⟩

theorem leave (h : c.Owned role owners) (id : Nat) : (c.leave id).Owned role owners :=
  ⟨h.registered, h.distinct, h.given⟩

theorem size_eq (h : c.Owned role owners) : c.size = owners.length := by
  rw [← h.registered.length_eq, List.length_map]
  rfl

/-- Nobody owns a subscription that has ended. -/
theorem unowned (h : c.Owned role owners) (ended : ∀ x ∈ c.subscribers, x.1 ≠ id) :
    ∀ o ∈ owners, o.1 ≠ id := by
  intro o ho
  obtain ⟨x, hx, rfl⟩ := List.mem_map.1 (h.registered.mem_iff.2 ho)
  exact ended x hx

theorem of_count [DecidableEq ρ] (h : c.Owned role owners)
    (same : ∀ o, owners.count o = owners'.count o) : c.Owned role owners' :=
  h.perm (List.perm_iff_count.2 same)

/-- When one of the owners leaves, all others stay. -/
theorem leaves {α : Type} {part : List α} {a : α} {others : List (Nat × ρ)} (own : α → Nat × ρ)
    (h : c.Owned role (part.map own ++ others)) (ha : a ∈ part) :
    (c.unsubscribe (own a).1).Owned role
      ((part.filter fun x => (own x).1 != (own a).1).map own ++ others) := by
  have distinct := h.distinct
  rw [List.map_append, List.nodup_append] at distinct
  have number : (own a).1 ∈ (part.map own).map Prod.fst :=
    List.mem_map_of_mem (List.mem_map_of_mem ha)
  have stay : ∀ o ∈ others, (o.1 != (own a).1) = true := fun o ho =>
    bne_iff_ne.2 (distinct.2.2 _ number _ (List.mem_map_of_mem ho)).symm
  have left := h.unsubscribe (own a).1
  rwa [List.filter_append, List.filter_eq_self.2 stay, List.filter_map] at left

end Owned

def without (numbers : List Nat) (c : Channel η) : Channel η :=
  { c with subscribers := c.subscribers.filter fun x => !numbers.contains x.1 }

@[simp] theorem without_nil (c : Channel η) : c.without [] = c := by simp [without]

theorem without_singleton (c : Channel η) (id : Nat) : c.without [id] = c.unsubscribe id := by
  simp only [without, unsubscribe, List.contains_cons, List.contains_nil, Bool.or_false, bne]

end ProjectPicker.Channel
