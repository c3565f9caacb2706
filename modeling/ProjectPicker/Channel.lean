/-!
# Channels

* `Channel` : the subscribers of a channel in the order of their subscription, and those that are
  being served;
* `Channel.subscribe`, `Channel.unsubscribe` : a subscription is known by its number;
* `Slot` : where a channel sits inside a larger state;
* `Slot.publish` : serves everyone who is subscribed when it begins, one after the other. Whoever is
  being served already, by a publication that this one takes place in, is passed over.
-/

set_option autoImplicit false

namespace ProjectPicker

/-- The subscribers of a channel. -/
structure Channel (η : Type) where
  /-- The number of the next subscription. -/
  nextId : Nat := 0
  /-- The subscribers in the order of their subscription. -/
  subscribers : List (Nat × η) := []
  /-- The subscriptions being served, the innermost first. -/
  running : List Nat := []

namespace Channel

variable {η : Type}

def empty : Channel η := {}

/-- The channel with a further subscriber, whose number is `nextId`. -/
def subscribe (c : Channel η) (subscriber : η) : Channel η :=
  { c with nextId := c.nextId + 1, subscribers := c.subscribers ++ [(c.nextId, subscriber)] }

/-- The channel without the subscriber of this number. -/
def unsubscribe (c : Channel η) (id : Nat) : Channel η :=
  { c with subscribers := c.subscribers.filter (·.1 != id) }

/-- How many are subscribed. -/
def size (c : Channel η) : Nat := c.subscribers.length

/-- A subscriber begins to be served. -/
def enter (c : Channel η) (id : Nat) : Channel η := { c with running := id :: c.running }

def leave (c : Channel η) (id : Nat) : Channel η := { c with running := c.running.erase id }

end Channel

/-- Where a channel sits inside a larger state. -/
structure Slot (σ η : Type) where
  get : σ → Channel η
  set : Channel η → σ → σ
  get_set : ∀ c s, get (set c s) = c := by intros; rfl
  set_get : ∀ s, set (get s) s = s := by intros; rfl
  set_set : ∀ c c' s, set c' (set c s) = set c' s := by intros; rfl

namespace Slot

variable {σ η : Type} {m : Type → Type} [Monad m]

def modify (slot : Slot σ η) (f : Channel η → Channel η) (s : σ) : σ := slot.set (f (slot.get s)) s

/-- Serves these subscribers in order, and says how many were served. Whoever is being served
already when its turn comes is passed over. -/
def deliver (slot : Slot σ η) (serve : Nat → η → σ → m σ) :
    List (Nat × η) → σ → m (Nat × σ)
  | [], s => pure (0, s)
  | (id, subscriber) :: rest, s =>
    if (slot.get s).running.contains id then deliver slot serve rest s
    else do
      let s ← serve id subscriber (slot.modify (·.enter id) s)
      let (served, s) ← deliver slot serve rest (slot.modify (·.leave id) s)
      pure (served + 1, s)

/-- Serves everyone who is subscribed now, and says how many were served. -/
def publish (slot : Slot σ η) (serve : Nat → η → σ → m σ) (s : σ) : m (Nat × σ) :=
  slot.deliver serve (slot.get s).subscribers s

end Slot

end ProjectPicker
