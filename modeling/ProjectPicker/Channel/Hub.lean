import ProjectPicker.Channel
import ProjectPicker.Channel.Listener

/-!
# A hub: one channel and its listeners

* `Hub` : a channel, the subscriptions held under names, and what was written down;
* `Hub.Action`, `Hub.Answer` : what can be done with it, and what comes back;
* `Hub.take` : takes a step, where listeners may react to a depth that is given. `none` means that
  their reactions are nested deeper than that.
-/

set_option autoImplicit false

namespace ProjectPicker

namespace Hub

/-- What can be done with a hub, apart from subscribing. -/
inductive Action where
  | publish (payload : String)
  | unsubscribe (listener : String)
  | drop (listener : String)
  | count
  | debug (listener : String)
  | close
  deriving DecidableEq, Repr

/-- What comes back. -/
inductive Answer where
  | flag (b : Bool)
  | count (n : Nat)
  | text (s : Option String)
  | closed
  deriving DecidableEq, Repr

abbrev Step := ProjectPicker.Step Unit Action
abbrev Listener := ProjectPicker.Listener Unit Action
abbrev LogEntry := ProjectPicker.LogEntry Unit Action Answer

end Hub

/-- A channel with its listeners. Once it is closed nobody can subscribe or publish any more. -/
structure Hub where
  channel : Channel Hub.Listener := .empty
  isOpen : Bool := true
  /-- The subscriptions held, each under the name of its listener. -/
  held : List (String × Nat) := []
  log : List Hub.LogEntry := []

namespace Hub

def slot : Slot Hub Listener where
  get h := h.channel
  set channel h := { h with channel }

def record (entry : LogEntry) (h : Hub) : Hub := { h with log := h.log ++ [entry] }

def release (h : Hub) (name : String) : Answer × Hub :=
  match h.held.lookup name with
  | some id =>
    (.flag true,
      { h with channel := h.channel.unsubscribe id, held := h.held.filter (·.1 != name) })
  | none => (.flag false, h)

/-- Subscribes a listener. A subscription held under its name before is ended after that. -/
def subscribe (h : Hub) (l : Listener) : Answer × Hub :=
  let id := h.channel.nextId
  let (answer, h) := ({ h with channel := h.channel.subscribe l } : Hub).release l.name
  (answer, { h with held := h.held ++ [(l.name, id)] })

def subscriptionText (id : Nat) : String :=
  "Subscription \x7b id: " ++ toString id ++ ", active: true \x7d"

/-- The number of subscribers, unless the hub is closed. -/
def count? (h : Hub) : Option Nat := if h.isOpen then some h.channel.size else none

/-- Takes a step; `nested` takes those of the listeners that are served meanwhile. -/
def perform (nested : Step → Hub → Option (Answer × Hub)) : Step → Hub → Option (Answer × Hub)
  | .subscribe _ name on, h =>
    if h.isOpen then some (h.subscribe ⟨name, on⟩) else some (.closed, h)
  | .act (.publish payload), h =>
    if h.isOpen then do
      let (served, h) ← slot.publish (fun _ l => l.hear nested record payload) h
      return (.count served, h)
    else some (.closed, h)
  | .act (.unsubscribe name), h => some (h.release name)
  | .act (.drop name), h => some (h.release name)
  | .act .count, h => some (if h.isOpen then .count h.channel.size else .closed, h)
  | .act (.debug name), h => some (.text ((h.held.lookup name).map subscriptionText), h)
  | .act .close, h => some (.flag h.isOpen, { h with isOpen := false })

def take : Nat → Step → Hub → Option (Answer × Hub)
  | 0 => perform fun _ _ => none
  | depth + 1 => perform (take depth)

end Hub

end ProjectPicker
