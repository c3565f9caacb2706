/-!
# Attempts

* `Attempt` : what may be refused; what it wrote before a refusal stays written;
* `Attempt.ofExcept`, `Attempt.require` : the refusals;
* `Attempt.within` : an attempt on a part of the state;
* `Attempt.withOwn` : an attempt with a variable of its own;
* `Attempt.after` : the state that an attempt leaves.
-/

set_option autoImplicit false

namespace ProjectPicker

/-- What reads and writes a `σ` and answers with an `α`, or is refused with an `ε` on the way. What
it wrote before a refusal stays written. -/
abbrev Attempt (ε σ α : Type) := EStateM ε σ α

namespace Attempt

variable {ε σ τ α : Type}

/-- What was worked out, or the refusal that it came to. -/
def ofExcept : Except ε α → Attempt ε σ α
  | .ok x => pure x
  | .error e => throw e

def require (condition : Bool) (e : ε) : Attempt ε σ Unit :=
  if condition then pure () else throw e

/-- An attempt on a part of the state. -/
def within (get : σ → τ) (set : τ → σ → σ) (a : Attempt ε τ α) : Attempt ε σ α := fun s =>
  match a.run (get s) with
  | .ok x t => .ok x (set t s)
  | .error e t => .error e (set t s)

/-- An attempt with a variable of its own, which is given up in the end. -/
def withOwn (own : τ) (a : Attempt ε (τ × σ) α) : Attempt ε σ α := fun s =>
  match a.run (own, s) with
  | .ok x t => .ok x t.2
  | .error e t => .error e t.2

/-- The state that an attempt leaves, refused or not. -/
def after (a : Attempt ε σ α) (s : σ) : σ :=
  match a.run s with
  | .ok _ s => s
  | .error _ s => s

end Attempt

end ProjectPicker
