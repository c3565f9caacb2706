import Mathlib.Data.List.Basic
import ProjectPicker.Proofs.Channel
import ProjectPicker.Proofs.Publication

/-!
# Whom a publication serves

* `Slot.due` : those subscribed when a publication begins, but for those being served around it;
* `deliver_eq` : whether someone is passed over can be told when the publication begins, whatever
  those do who are served before: a publication serves those who are due, one after the other;
* `Behaved.leads_publish` : publishing to subscribers who do no more than use the channel is such a
  use itself;
* `Reached.publish_eq` : so does a publication wherever code runs that uses the channel;
* `Slot.Snapshot`, `Reached.snapshot` : what is true of every publication that returns.
-/

set_option autoImplicit false

namespace ProjectPicker.Slot

open Channel (Event made)

variable {σ η : Type} {slot : Slot σ η} {serve : Nat → η → σ → Option σ}
  {history : List (Event η)} {enclosing : List Nat} {queue : List (Nat × η)} {who : Nat × η}
  {s s' v : σ} {n : Nat}

/-- Those of a queue who are not being served already. -/
def waiting (running : List Nat) (queue : List (Nat × η)) : List (Nat × η) :=
  queue.filter fun x => !running.contains x.1

theorem waiting_of_running {id : Nat} {x : η} (running : enclosing.contains id = true) :
    waiting enclosing ((id, x) :: queue) = waiting enclosing queue :=
  List.filter_cons_of_neg (by simpa using running)

theorem waiting_of_idle {id : Nat} {x : η} (idle : enclosing.contains id = false) :
    waiting enclosing ((id, x) :: queue) = (id, x) :: waiting enclosing queue :=
  List.filter_cons_of_pos (by simpa using idle)

/-- Whom a publication is for: everyone subscribed, except those who are being served around it. -/
def due (slot : Slot σ η) (enclosing : List Nat) (s : σ) : List (Nat × η) :=
  waiting enclosing (slot.get s).subscribers

def serveOne (slot : Slot σ η) (serve : Nat → η → σ → Option σ) (s : σ) (x : Nat × η) :
    Option σ :=
  (serve x.1 x.2 (slot.modify (·.enter x.1) s)).map (slot.modify (·.leave x.1))

namespace Behaved

/-- Those who are being served when a queue begins to be served are the same at each turn, so the
queue can be rid of them beforehand. -/
theorem deliver_eq (behaved : slot.Behaved serve) (queue : List (Nat × η)) (s : σ) :
    slot.deliver serve queue s =
      ((waiting (slot.get s).running queue).foldlM (slot.serveOne serve) s).map
        ((waiting (slot.get s).running queue).length, ·) := by
  induction queue generalizing s with
  | nil => rfl
  | cons x rest ih =>
    obtain ⟨id, x⟩ := x
    rw [deliver]
    cases running : (slot.get s).running.contains id with
    | true => rw [if_pos rfl, ih, waiting_of_running running]
    | false =>
      rw [if_neg Bool.false_ne_true, waiting_of_idle running, List.foldlM_cons, List.length_cons]
      cases served : slot.serveOne serve s (id, x) with
      | none =>
        have never : serve id x (slot.modify (·.enter id) s) = none :=
          Option.map_eq_none_iff.1 served
        rw [never]
        rfl
      | some t =>
        obtain ⟨u, done, left⟩ := Option.map_eq_some_iff.1 served
        dsimp only at done left
        obtain ⟨events, used⟩ := (behaved _ _ _ _ done).serve
        rw [done]
        simp only [Option.bind_eq_bind, Option.bind_some]
        rw [left] at used ⊢
        rw [ih, used.running]
        cases (waiting (slot.get s).running rest).foldlM (slot.serveOne serve) t <;> rfl

/-- If all of a queue have had their turn, those have been served who were waiting at the beginning,
and nobody else. -/
theorem serving_iff (behaved : slot.Behaved serve)
    (h : slot.deliver serve queue s = some (n, s')) :
    (∃ v, slot.Serving serve queue s who v) ↔ who ∈ waiting (slot.get s).running queue := by
  induction queue generalizing s n with
  | nil => exact ⟨fun ⟨_, never⟩ => (by cases never), fun never => (by cases never)⟩
  | cons x rest ih =>
    obtain ⟨id, x⟩ := x
    obtain ⟨running, h⟩ | ⟨idle, t, k, done, h, -⟩ := deliver_cons_eq_some h
    · rw [waiting_of_running running, ← ih h]
      constructor
      · rintro ⟨v, idle | ⟨-, later⟩ | ⟨idle, -, -⟩⟩
        · exact absurd (idle.symm.trans running) Bool.false_ne_true
        · exact ⟨v, later⟩
        · exact absurd (idle.symm.trans running) Bool.false_ne_true
      · rintro ⟨v, later⟩
        exact ⟨v, .passed running later⟩
    · obtain ⟨events, used⟩ := (behaved _ _ _ _ done).serve
      rw [waiting_of_idle idle, List.mem_cons, ← used.running, ← ih h]
      constructor
      · rintro ⟨v, - | ⟨running, -⟩ | ⟨-, done', later⟩⟩
        · exact .inl rfl
        · exact absurd (idle.symm.trans running) Bool.false_ne_true
        · rw [done] at done'
          cases done'
          exact .inr ⟨v, later⟩
      · rintro (rfl | ⟨v, later⟩)
        · exact ⟨_, .now idle⟩
        · exact ⟨v, .served idle done later⟩

theorem leads_publish (behaved : slot.Behaved serve) (h : slot.publish serve s = some (n, s')) :
    slot.Leads s s' :=
  relates_deliver (Leads.refl slot) (fun _ _ _ => Leads.trans)
    (fun _ _ _ _ _ served => (behaved _ _ _ _ served).serve) h

end Behaved

/-- A publication that began in the state `s` has returned `n` in the state `s'`. Those who were due
had their turn, and nobody else; they were served, each once, in the order of their subscription,
and `n` counts them. Whoever subscribed meanwhile is not among them. -/
structure Snapshot (slot : Slot σ η) (serve : Nat → η → σ → Option σ) (enclosing : List Nat)
    (s : σ) (n : Nat) (s' : σ) : Prop where
  count : n = (slot.due enclosing s).length
  turns : ∀ who, (∃ v, slot.Serving serve (slot.get s).subscribers s who v) ↔
    who ∈ slot.due enclosing s
  served : (slot.due enclosing s).foldlM (slot.serveOne serve) s = some s'
  inOrder : (slot.due enclosing s).Pairwise fun x y => x.1 < y.1
  newcomers : ∃ events, slot.Uses events s s' ∧
    ∀ x ∈ slot.due enclosing s, ∀ y ∈ made events, x.1 < y.1

namespace Reached

/-- Whoever publishes where code runs serves those who are due, one after the other, and returns if
each of them does. -/
theorem publish_eq (reached : slot.Reached history enclosing s) (behaved : slot.Behaved serve) :
    slot.publish serve s = ((slot.due enclosing s).foldlM (slot.serveOne serve) s).map
      ((slot.due enclosing s).length, ·) := by
  rw [publish, behaved.deliver_eq, reached.running, due]

/-- Whoever publishes where code runs serves a snapshot of the subscribers. -/
theorem snapshot (reached : slot.Reached history enclosing s) (behaved : slot.Behaved serve)
    (h : slot.publish serve s = some (n, s')) : slot.Snapshot serve enclosing s n s' := by
  obtain ⟨events, used⟩ := behaved.leads_publish h
  have recorded := reached.recorded
  have turns : ∀ who, (∃ v, slot.Serving serve (slot.get s).subscribers s who v) ↔
      who ∈ waiting (slot.get s).running (slot.get s).subscribers := fun _ => behaved.serving_iff h
  rw [reached.publish_eq behaved] at h
  obtain ⟨t, served, h⟩ := Option.map_eq_some_iff.1 h
  obtain ⟨rfl, rfl⟩ := Prod.mk.inj h
  refine ⟨rfl, reached.running ▸ turns, served, recorded.increasing.filter _, events, used,
    fun x hx y hy => ?_⟩
  exact Nat.lt_of_lt_of_le (recorded.below (List.mem_filter.1 hx).1) (used.fresh recorded hy)

/-- Whenever a subscriber begins to be served, code runs with that one in the innermost place. -/
theorem serving (reached : slot.Reached history enclosing s) (behaved : slot.Behaved serve)
    (h : slot.Serving serve queue s who v) :
    ∃ later, slot.Reached later (who.1 :: enclosing) v := by
  induction h generalizing history with
  | @now id _ _ _ idle =>
    rw [reached.running] at idle
    exact ⟨history, reached.served (by simpa using idle)⟩
  | passed _ _ ih => exact ih reached
  | served _ done _ ih =>
    obtain ⟨events, used⟩ := behaved _ _ _ _ done
    exact ih (reached.uses (.serve used))

end Reached

end ProjectPicker.Slot
