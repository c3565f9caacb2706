/-!
# Listeners

* `Step` : a plain action, or the subscription of a listener, which reacts by further steps;
* `Listener` : a name, and the steps taken for each payload;
* `LogEntry` : a payload heard, or a step taken by a listener;
* `Listener.hear` : hears a payload and takes the steps for it.
-/

set_option autoImplicit false

namespace ProjectPicker

/-- A plain action, or the subscription of a listener to a topic. A listener reacts to a payload by
the steps listed under it, or else by those listed under `*`. -/
inductive Step (τ α : Type) where
  | act (action : α)
  | subscribe (topic : τ) (listener : String) (on : List (String × List (Step τ α)))

/-- A listener: its name, and its steps for each payload. -/
structure Listener (τ α : Type) where
  name : String
  on : List (String × List (Step τ α))

/-- What is written down while listeners are served. -/
inductive LogEntry (τ α β : Type) where
  /-- A listener heard a payload. -/
  | heard (listener payload : String)
  /-- A listener took a step and got an answer. -/
  | did (listener : String) (step : Step τ α) (answer : β)

namespace Listener

variable {σ τ α β : Type}

def reactions (l : Listener τ α) (payload : String) : List (Step τ α) :=
  ((l.on.lookup payload).or (l.on.lookup "*")).getD []

def takeSteps (take : Step τ α → σ → Option (β × σ)) (record : LogEntry τ α β → σ → σ)
    (name : String) : List (Step τ α) → σ → Option σ
  | [], s => some s
  | step :: rest, s => do
    let (answer, s) ← take step s
    takeSteps take record name rest (record (.did name step answer) s)

/-- A listener hears a payload: that is written down, and the steps for it are taken. -/
def hear (take : Step τ α → σ → Option (β × σ)) (record : LogEntry τ α β → σ → σ)
    (l : Listener τ α) (payload : String) (s : σ) : Option σ :=
  takeSteps take record l.name (l.reactions payload) (record (.heard l.name payload) s)

end Listener

end ProjectPicker
