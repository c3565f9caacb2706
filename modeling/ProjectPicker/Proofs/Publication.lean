import ProjectPicker.Channel.Listener
import ProjectPicker.Channel

/-!
# What goes on during a publication

* `Slot.Serving` : while a queue is being served, it comes to a subscriber, in some state;
* `Listener.Taking` : while a listener takes its steps, it comes to one of them, in some state;
* `Slot.relates_deliver` : what relates the states before and after one serving relates those before
  and after all of them;
* `Slot.keeps_deliver`, `Slot.Serving.keeps`, `Listener.keeps_takeSteps`, `Listener.Taking.keeps` :
  a property that no single serving and no single step destroys holds afterwards and meanwhile.

Both relations speak of what has happened so far: a queue or a list of steps need not come to its
end for them to hold.
-/

set_option autoImplicit false

namespace ProjectPicker

namespace Slot

variable {σ η : Type} {slot : Slot σ η} {serve : Nat → η → σ → Option σ}
  {queue rest : List (Nat × η)} {id n : Nat} {x : η} {s s' v : σ} {who : Nat × η}

@[simp] theorem leave_enter (slot : Slot σ η) (id : Nat) (s : σ) :
    slot.modify (·.leave id) (slot.modify (·.enter id) s) = s := by
  simp [modify, slot.get_set, slot.set_set, slot.set_get, Channel.leave, Channel.enter]

/-- While `queue` is served from `s` on, it comes to `who`, who begins to be served in the state
`v`. -/
inductive Serving (slot : Slot σ η) (serve : Nat → η → σ → Option σ) :
    List (Nat × η) → σ → Nat × η → σ → Prop
  | now {id : Nat} {x : η} {rest : List (Nat × η)} {s : σ}
      (idle : (slot.get s).running.contains id = false) :
      Serving slot serve ((id, x) :: rest) s (id, x) (slot.modify (·.enter id) s)
  | passed {id : Nat} {x : η} {rest : List (Nat × η)} {s : σ} {who : Nat × η} {v : σ}
      (running : (slot.get s).running.contains id = true)
      (later : Serving slot serve rest s who v) :
      Serving slot serve ((id, x) :: rest) s who v
  | served {id : Nat} {x : η} {rest : List (Nat × η)} {s t : σ} {who : Nat × η} {v : σ}
      (idle : (slot.get s).running.contains id = false)
      (done : serve id x (slot.modify (·.enter id) s) = some t)
      (later : Serving slot serve rest (slot.modify (·.leave id) t) who v) :
      Serving slot serve ((id, x) :: rest) s who v

/-- The first of a queue is passed over or served, and then the others have their turn. -/
theorem deliver_cons_eq_some
    (h : slot.deliver serve ((id, x) :: rest) s = some (n, s')) :
    ((slot.get s).running.contains id = true ∧ slot.deliver serve rest s = some (n, s')) ∨
      ((slot.get s).running.contains id = false ∧
        ∃ t k, serve id x (slot.modify (·.enter id) s) = some t ∧
          slot.deliver serve rest (slot.modify (·.leave id) t) = some (k, s') ∧ n = k + 1) := by
  unfold deliver at h
  split at h
  · next running => exact .inl ⟨running, h⟩
  · next idle =>
    obtain ⟨t, ht, h⟩ := Option.bind_eq_some_iff.1 h
    obtain ⟨⟨k, u⟩, hk, h⟩ := Option.bind_eq_some_iff.1 h
    cases h
    exact .inr ⟨by simpa using idle, t, k, ht, hk, rfl⟩

theorem deliver_of_running (running : (slot.get s).running.contains id = true) :
    slot.deliver serve ((id, x) :: rest) s = slot.deliver serve rest s := by
  rw [deliver, if_pos running]

theorem deliver_of_idle {t : σ} (idle : ¬ (slot.get s).running.contains id = true)
    (done : serve id x (slot.modify (·.enter id) s) = some t)
    (later : slot.deliver serve rest (slot.modify (·.leave id) t) = some (n, s')) :
    slot.deliver serve ((id, x) :: rest) s = some (n + 1, s') := by
  rw [deliver, if_neg idle, done]
  exact Option.bind_eq_some_iff.2 ⟨t, rfl, Option.bind_eq_some_iff.2 ⟨(n, s'), later, rfl⟩⟩

/-- What relates the states before and after each of the turns, one after the other, relates those
before and after the whole delivery. -/
theorem relates_deliver {R : σ → σ → Prop} (refl : ∀ s, R s s)
    (trans : ∀ s t u, R s t → R t u → R s u)
    (turn : ∀ id x s t, (id, x) ∈ queue → serve id x (slot.modify (·.enter id) s) = some t →
      R s (slot.modify (·.leave id) t))
    (h : slot.deliver serve queue s = some (n, s')) : R s s' := by
  induction queue generalizing s n with
  | nil =>
    cases h
    exact refl _
  | cons who rest ih =>
    obtain ⟨id, x⟩ := who
    have rest_turn := fun id x s t hm => turn id x s t (List.mem_cons_of_mem _ hm)
    obtain ⟨-, h⟩ | ⟨-, t, k, ht, hk, -⟩ := deliver_cons_eq_some h
    · exact ih rest_turn h
    · exact trans _ _ _ (turn id x s t (by simp) ht) (ih rest_turn hk)

section Keeps

variable {P : σ → Prop} (enter : ∀ id s, P s → P (slot.modify (·.enter id) s))
  (leave : ∀ id s, P s → P (slot.modify (·.leave id) s))

include enter leave

/-- What every serving of a queue's subscribers keeps, the whole queue keeps. -/
theorem keeps_deliver
    (keeps : ∀ id x s s', (id, x) ∈ queue → serve id x s = some s' → P s → P s') (hs : P s)
    (h : slot.deliver serve queue s = some (n, s')) : P s' :=
  relates_deliver (R := fun s s' => P s → P s') (fun _ hs => hs)
    (fun _ _ _ first andThen hs => andThen (first hs))
    (fun id x s t hm ht hs => leave id t (keeps id x _ t hm ht (enter id s hs))) h hs

/-- What every serving keeps holds whenever someone begins to be served. -/
theorem Serving.keeps (keeps : ∀ id x s s', serve id x s = some s' → P s → P s') (hs : P s)
    (h : slot.Serving serve queue s who v) : P v := by
  induction h with
  | now => exact enter _ _ hs
  | passed _ _ ih => exact ih hs
  | served _ done _ ih => exact ih (leave _ _ (keeps _ _ _ _ done (enter _ _ hs)))

end Keeps

end Slot

namespace Listener

variable {σ τ α β : Type} {take : Step τ α → σ → Option (β × σ)}
  {record : LogEntry τ α β → σ → σ} {name payload : String} {steps : List (Step τ α)}
  {step : Step τ α} {l : Listener τ α} {s s' v : σ}

/-- While a listener takes `steps` from `s` on, it comes to `step`, which begins in the state
`v`. -/
inductive Taking (take : Step τ α → σ → Option (β × σ)) (record : LogEntry τ α β → σ → σ)
    (name : String) : List (Step τ α) → σ → Step τ α → σ → Prop
  | now {step : Step τ α} {rest : List (Step τ α)} {s : σ} :
      Taking take record name (step :: rest) s step s
  | taken {step : Step τ α} {rest : List (Step τ α)} {s t : σ} {answer : β} {later : Step τ α}
      {v : σ} (done : take step s = some (answer, t))
      (further : Taking take record name rest (record (.did name step answer) t) later v) :
      Taking take record name (step :: rest) s later v

section Keeps

variable {P : σ → Prop} (write : ∀ entry s, P s → P (record entry s))
  (each : ∀ step s answer s', take step s = some (answer, s') → P s → P s')

include write each

theorem keeps_takeSteps (hs : P s) (h : takeSteps take record name steps s = some s') : P s' := by
  induction steps generalizing s with
  | nil =>
    cases h
    exact hs
  | cons step rest ih =>
    obtain ⟨⟨answer, t⟩, ht, h⟩ := Option.bind_eq_some_iff.1 h
    exact ih (write _ _ (each _ _ _ _ ht hs)) h

theorem keeps_hear (hs : P s) (h : l.hear take record payload s = some s') : P s' :=
  keeps_takeSteps write each (write _ _ hs) h

/-- What every step keeps holds whenever a further one begins. -/
theorem Taking.keeps (hs : P s) (h : Taking take record name steps s step v) : P v := by
  induction h with
  | now => exact hs
  | taken done _ ih => exact ih (write _ _ (each _ _ _ _ done hs))

end Keeps

end Listener

end ProjectPicker
