import Mathlib.Data.List.Basic
import ProjectPicker.Channel

/-!
# The subscriptions of a channel

* `Channel.Event`, `Channel.live` : subscriptions are made and ended, and those are live that were
  made and not ended since;
* `Channel.Recorded` : the subscribers of a channel are the live subscriptions of a history, which
  are numbered in the order in which they were made;
* `Channel.Registers`, `Recorded.registers` : what that comes to;
* `Slot.Uses` : what code does that uses a channel: it subscribes, ends subscriptions, has
  subscribers served who do no more than that, and changes all else at will;
* `Uses.running`, `Uses.recorded` : it leaves nobody marked as being served, and adds to the
  history;
* `Slot.Leads`, `Slot.Behaved` : code leads from one state to another, and what subscribers do is
  such code;
* `Slot.Reached` : the states in which code runs, at top level or while subscribers are being
  served.
-/

set_option autoImplicit false

namespace ProjectPicker

namespace Channel

variable {η : Type} {c : Channel η} {id : Nat} {x : η}

/-! ## Histories -/

/-- A subscription is made, or one is ended. -/
inductive Event (η : Type) where
  | made (id : Nat) (subscriber : η)
  | ended (id : Nat)

def Event.ends (id : Nat) : Event η → Bool
  | .made _ _ => false
  | .ended n => n == id

variable {history events : List (Event η)}

def made : List (Event η) → List (Nat × η)
  | [] => []
  | .made id x :: later => (id, x) :: made later
  | .ended _ :: later => made later

/-- The subscriptions made in a history and not ended later in it, in order. -/
def live : List (Event η) → List (Nat × η)
  | [] => []
  | .made id x :: later => if later.any (·.ends id) then live later else (id, x) :: live later
  | .ended _ :: later => live later

theorem made_append : made (history ++ events) = made history ++ made events := by
  induction history with
  | nil => rfl
  | cons e later ih => cases e <;> simp [made, ih]

theorem live_append_made : live (history ++ [.made id x]) = live history ++ [(id, x)] := by
  induction history with
  | nil => rfl
  | cons e later ih =>
    cases e with
    | ended n => exact ih
    | made n y =>
      have same : (later ++ [Event.made id x]).any (·.ends n) = later.any (·.ends n) := by
        simp [Event.ends]
      rw [List.cons_append, live, live, same, ih]
      split <;> rfl

theorem live_append_ended :
    live (history ++ [.ended id]) = (live history).filter (·.1 != id) := by
  induction history with
  | nil => rfl
  | cons e later ih =>
    cases e with
    | ended n => exact ih
    | made n y =>
      have here : (later ++ [Event.ended id]).any (·.ends n) =
          (later.any (·.ends n) || id == n) := by
        simp [Event.ends]
      rw [List.cons_append, live, live, here, ih]
      cases later.any (·.ends n) with
      | true => rfl
      | false =>
        by_cases same : id = n
        · simp [same]
        · simp [same, Ne.symm same]

theorem live_sublist_made (history : List (Event η)) : (live history).Sublist (made history) := by
  induction history with
  | nil => exact .slnil
  | cons e later ih =>
    cases e with
    | ended n => exact ih
    | made n y =>
      rw [live, made]
      split
      · exact ih.cons _
      · exact ih.cons_cons _

/-! ## What a channel keeps of its history -/

/-- The subscribers are the live subscriptions of a history, in which they were numbered as they
were made. -/
structure Recorded (history : List (Event η)) (c : Channel η) : Prop where
  numbers : (made history).map Prod.fst = List.range c.nextId
  subscribers : c.subscribers = live history

namespace Recorded

theorem empty : Recorded [] (.empty : Channel η) := ⟨rfl, rfl⟩

theorem subscribe (h : Recorded history c) (x : η) :
    Recorded (history ++ [.made c.nextId x]) (c.subscribe x) where
  numbers := by
    rw [made_append, List.map_append, h.numbers]
    exact List.range_succ.symm
  subscribers := by
    rw [live_append_made, ← h.subscribers]
    rfl

theorem unsubscribe (h : Recorded history c) (id : Nat) :
    Recorded (history ++ [.ended id]) (c.unsubscribe id) where
  numbers := by
    rw [made_append, made, made, List.append_nil]
    exact h.numbers
  subscribers := by
    rw [live_append_ended, ← h.subscribers]
    rfl

theorem enter (h : Recorded history c) (id : Nat) : Recorded history (c.enter id) :=
  ⟨h.numbers, h.subscribers⟩

theorem leave (h : Recorded history c) (id : Nat) : Recorded history (c.leave id) :=
  ⟨h.numbers, h.subscribers⟩

/-- Numbers increase in the order of subscription. -/
theorem increasing (h : Recorded history c) : c.subscribers.Pairwise fun x y => x.1 < y.1 := by
  have all : (made history).Pairwise fun x y => x.1 < y.1 := by
    rw [← List.pairwise_map (f := Prod.fst) (R := (· < ·)), h.numbers]
    exact List.pairwise_lt_range
  rw [h.subscribers]
  exact all.sublist (live_sublist_made history)

theorem below (h : Recorded history c) {y : Nat × η} (hy : y ∈ c.subscribers) : y.1 < c.nextId := by
  rw [h.subscribers] at hy
  have number : y.1 ∈ (made history).map Prod.fst :=
    List.mem_map_of_mem ((live_sublist_made history).subset hy)
  rwa [h.numbers, List.mem_range] at number

end Recorded

/-- Ending a subscription takes out its own subscriber and keeps the order of the others. -/
theorem subscribers_unsubscribe {before after : List (Nat × η)}
    (increasing : c.subscribers.Pairwise fun x y => x.1 < y.1)
    (h : c.subscribers = before ++ (id, x) :: after) :
    (c.unsubscribe id).subscribers = before ++ after := by
  rw [h, List.pairwise_append, List.pairwise_cons] at increasing
  obtain ⟨-, ⟨later, -⟩, earlier⟩ := increasing
  have others_before : ∀ y ∈ before, (y.1 != id) = true := fun y hy =>
    bne_iff_ne.2 (Nat.ne_of_lt (earlier y hy (id, x) List.mem_cons_self))
  have others_after : ∀ y ∈ after, (y.1 != id) = true := fun y hy =>
    bne_iff_ne.2 (Nat.ne_of_gt (later y hy))
  simp only [unsubscribe, h, List.filter_append, List.filter_cons, bne_self_eq_false,
    Bool.false_eq_true, if_false]
  rw [List.filter_eq_self.2 others_before, List.filter_eq_self.2 others_after]

theorem unsubscribe_absent (h : ∀ y ∈ c.subscribers, y.1 ≠ id) : c.unsubscribe id = c := by
  have all : c.subscribers.filter (·.1 != id) = c.subscribers :=
    List.filter_eq_self.2 fun y hy => bne_iff_ne.2 (h y hy)
  rw [unsubscribe, all]

theorem unsubscribe_subscribe (other : c.nextId ≠ id) :
    (c.subscribe x).unsubscribe id = (c.unsubscribe id).subscribe x := by
  have new : (c.nextId != id) = true := bne_iff_ne.2 other
  simp only [subscribe, unsubscribe, List.filter_append, List.filter_cons, new, if_true,
    List.filter_nil]

/-- The subscribers of a channel are exactly these: their numbers increase and were given before,
they are counted, a subscription that ends takes out its own subscriber alone, and one that is not
there takes out nobody. -/
structure Registers (c : Channel η) (registered : List (Nat × η)) : Prop where
  subscribers : c.subscribers = registered
  increasing : registered.Pairwise fun x y => x.1 < y.1
  below : ∀ y ∈ registered, y.1 < c.nextId
  size : c.size = registered.length
  ends : ∀ before id x after, registered = before ++ (id, x) :: after →
    (c.unsubscribe id).subscribers = before ++ after
  absent : ∀ id, (∀ y ∈ registered, y.1 ≠ id) → c.unsubscribe id = c

theorem Recorded.registers (h : Recorded history c) : c.Registers (live history) := by
  rw [← h.subscribers]
  exact ⟨rfl, h.increasing, fun y => h.below, rfl,
    fun before id x after => subscribers_unsubscribe h.increasing,
    fun id => unsubscribe_absent⟩

end Channel

namespace Slot

open Channel (Event made Recorded)

variable {σ η : Type} {slot : Slot σ η} {history events later : List (Event η)} {s t s' : σ}
  {enclosing : List Nat} {id : Nat}

@[simp] theorem get_modify (f : Channel η → Channel η) :
    slot.get (slot.modify f s) = f (slot.get s) := slot.get_set _ _

/-! ## Using a channel -/

/-- What code does that uses a channel: it changes all else at will, subscribes, ends subscriptions,
and has subscribers served who do no more than that either. The events are what comes of it for the
subscriptions. -/
inductive Uses (slot : Slot σ η) : List (Event η) → σ → σ → Prop
  | elsewhere {s s' : σ} (same : slot.get s' = slot.get s) : Uses slot [] s s'
  | subscribe (x : η) (s : σ) :
      Uses slot [.made (slot.get s).nextId x] s (slot.modify (·.subscribe x) s)
  | unsubscribe (id : Nat) (s : σ) : Uses slot [.ended id] s (slot.modify (·.unsubscribe id) s)
  | serve {id : Nat} {events : List (Event η)} {s t : σ}
      (meanwhile : Uses slot events (slot.modify (·.enter id) s) t) :
      Uses slot events s (slot.modify (·.leave id) t)
  | trans {events later : List (Event η)} {s t s' : σ} (first : Uses slot events s t)
      (andThen : Uses slot later t s') : Uses slot (events ++ later) s s'

namespace Uses

theorem running (h : Uses slot events s s') : (slot.get s').running = (slot.get s).running := by
  induction h with
  | elsewhere same => rw [same]
  | subscribe => rw [get_modify, Channel.subscribe]
  | unsubscribe => rw [get_modify, Channel.unsubscribe]
  | serve _ ih =>
    rw [get_modify, Channel.leave, ih, get_modify, Channel.enter]
    exact List.erase_cons_head ..
  | trans _ _ ih ih' => exact ih'.trans ih

theorem recorded (h : Uses slot events s s') (before : Recorded history (slot.get s)) :
    Recorded (history ++ events) (slot.get s') := by
  induction h generalizing history with
  | elsewhere same =>
    rw [same, List.append_nil]
    exact before
  | subscribe x =>
    rw [get_modify]
    exact before.subscribe x
  | unsubscribe id =>
    rw [get_modify]
    exact before.unsubscribe id
  | @serve id _ s _ _ ih =>
    have marked : Recorded history (slot.get (slot.modify (·.enter id) s)) := by
      rw [get_modify]
      exact before.enter id
    rw [get_modify]
    exact (ih marked).leave id
  | trans _ _ ih ih' =>
    rw [← List.append_assoc]
    exact ih' (ih before)

theorem fresh (h : Uses slot events s s') (before : Recorded history (slot.get s)) {y : Nat × η}
    (hy : y ∈ made events) : (slot.get s).nextId ≤ y.1 := by
  have all := (h.recorded before).numbers
  rw [Channel.made_append, List.map_append, before.numbers] at all
  have distinct := List.nodup_range (n := (slot.get s').nextId)
  rw [← all] at distinct
  refine Nat.le_of_not_lt fun given => ?_
  exact (List.nodup_append.1 distinct).2.2 _ (List.mem_range.2 given) _ (List.mem_map_of_mem hy) rfl

end Uses

/-- Code that uses the channel leads from one state to the other. -/
def Leads (slot : Slot σ η) (s s' : σ) : Prop := ∃ events, slot.Uses events s s'

theorem Leads.refl (slot : Slot σ η) (s : σ) : slot.Leads s s := ⟨[], .elsewhere rfl⟩

theorem Leads.trans (h : slot.Leads s t) (h' : slot.Leads t s') : slot.Leads s s' := by
  obtain ⟨events, used⟩ := h
  obtain ⟨later, used'⟩ := h'
  exact ⟨events ++ later, used.trans used'⟩

theorem Leads.serve {id : Nat} (meanwhile : slot.Leads (slot.modify (·.enter id) s) t) :
    slot.Leads s (slot.modify (·.leave id) t) := by
  obtain ⟨events, used⟩ := meanwhile
  exact ⟨events, .serve used⟩

theorem leads_elsewhere (same : slot.get s' = slot.get s) : slot.Leads s s' :=
  ⟨[], .elsewhere same⟩

/-- Subscribers who do no more than use the channel themselves. -/
def Behaved (slot : Slot σ η) (serve : Nat → η → σ → Option σ) : Prop :=
  ∀ id x s s', serve id x s = some s' → slot.Leads s s'

/-- The states in which code runs, with all that became of subscriptions before, and the numbers of
those that are being served around it, the innermost first. -/
inductive Reached (slot : Slot σ η) : List (Event η) → List Nat → σ → Prop
  | start {s : σ} (fresh : slot.get s = .empty) : Reached slot [] [] s
  | uses {history events : List (Event η)} {enclosing : List Nat} {s s' : σ}
      (earlier : Reached slot history enclosing s) (used : slot.Uses events s s') :
      Reached slot (history ++ events) enclosing s'
  | served {history : List (Event η)} {enclosing : List Nat} {id : Nat} {s : σ}
      (earlier : Reached slot history enclosing s) (idle : id ∉ enclosing) :
      Reached slot history (id :: enclosing) (slot.modify (·.enter id) s)

namespace Reached

theorem running (h : Reached slot history enclosing s) : (slot.get s).running = enclosing := by
  induction h with
  | start fresh => rw [fresh, Channel.empty]
  | uses _ used ih => rw [used.running, ih]
  | served _ _ ih => rw [get_modify, Channel.enter, ih]

theorem recorded (h : Reached slot history enclosing s) : Recorded history (slot.get s) := by
  induction h with
  | start fresh =>
    rw [fresh]
    exact .empty
  | uses _ used ih => exact used.recorded ih
  | @served _ _ id _ _ _ ih =>
    rw [get_modify]
    exact ih.enter id

end Reached

end Slot

end ProjectPicker
