import ProjectPicker.Attempt

/-!
# What attempts leave behind

* `Attempt.Reads` : writes nothing, refused or not;
* `Attempt.Sure` : is never refused;
* `Attempt.Atomic` : a refusal leaves the state as it was. An attempt that first checks and then
  writes is atomic (`Reads.bind`, `Atomic.bind`);
* `Attempt.Keeps` : a property survives, refused or not.
-/

set_option autoImplicit false

namespace ProjectPicker.Attempt

variable {ε σ τ α β : Type}

/-! ## Runs -/

@[simp] theorem run_ofExcept_ok (x : α) (s : σ) :
    (ofExcept (.ok x) : Attempt ε σ α).run s = .ok x s := rfl

@[simp] theorem run_ofExcept_error (e : ε) (s : σ) :
    (ofExcept (.error e) : Attempt ε σ α).run s = .error e s := rfl

@[simp] theorem run_require_true (e : ε) (s : σ) :
    (require true e : Attempt ε σ Unit).run s = .ok () s := rfl

@[simp] theorem run_require_false (e : ε) (s : σ) :
    (require false e : Attempt ε σ Unit).run s = .error e s := rfl

theorem run_within (get : σ → τ) (set : τ → σ → σ) (a : Attempt ε τ α) (s : σ) :
    (a.within get set).run s =
      match a.run (get s) with
      | .ok x t => .ok x (set t s)
      | .error e t => .error e (set t s) := rfl

theorem run_withOwn (own : τ) (a : Attempt ε (τ × σ) α) (s : σ) :
    (a.withOwn own).run s =
      match a.run (own, s) with
      | .ok x t => .ok x t.2
      | .error e t => .error e t.2 := rfl

theorem run_bind_of_ok {a : Attempt ε σ α} {f : α → Attempt ε σ β} {s t : σ} {x : α}
    (ok : a.run s = .ok x t) : (a >>= f).run s = (f x).run t := by
  rw [EStateM.run_bind, ok]

theorem run_bind_eq_error {a : Attempt ε σ α} {f : α → Attempt ε σ β} {s s' : σ} {e : ε} :
    (a >>= f).run s = .error e s' ↔
      a.run s = .error e s' ∨ ∃ x t, a.run s = .ok x t ∧ (f x).run t = .error e s' := by
  rw [EStateM.run_bind]
  cases a.run s with
  | ok x t =>
    constructor
    · exact fun h => .inr ⟨x, t, rfl, h⟩
    · rintro (h | ⟨_, _, ⟨⟩, h⟩)
      · cases h
      · exact h
  | error e t => simp

theorem after_of_ok {a : Attempt ε σ α} {s s' : σ} {x : α} (h : a.run s = .ok x s') :
    a.after s = s' := by simp only [after, h]

theorem after_of_error {a : Attempt ε σ α} {s s' : σ} {e : ε} (h : a.run s = .error e s') :
    a.after s = s' := by simp only [after, h]

/-! ## Attempts that write nothing, and attempts that are never refused -/

/-- The state is the same afterwards, refused or not. -/
def Reads (a : Attempt ε σ α) : Prop := ∀ s, a.after s = s

/-- Never refused. -/
def Sure (a : Attempt ε σ α) : Prop := ∀ s, ∃ x s', a.run s = .ok x s'

theorem reads_pure (x : α) : (pure x : Attempt ε σ α).Reads := fun _ => rfl

theorem reads_get : (get : Attempt ε σ σ).Reads := fun _ => rfl

theorem reads_throw (e : ε) : (throw e : Attempt ε σ α).Reads := fun _ => rfl

theorem reads_ofExcept (r : Except ε α) : (ofExcept r : Attempt ε σ α).Reads := by
  cases r with
  | ok x => exact reads_pure x
  | error e => exact reads_throw e

theorem reads_require (condition : Bool) (e : ε) :
    (require condition e : Attempt ε σ Unit).Reads := by
  cases condition with
  | true => exact reads_pure ()
  | false => exact reads_throw e

theorem Reads.andThen {a : Attempt ε σ α} {f : α → Attempt ε σ β} (ha : a.Reads)
    (hf : ∀ x, (f x).Reads) : (a >>= f).Reads := by
  intro s
  have hs := ha s
  simp only [after, EStateM.run_bind] at hs ⊢
  split at hs
  · next x t hx =>
    simp only [hx]
    rw [hs]
    exact hf x s
  · next e t he => simpa only [he] using hs

theorem sure_pure (x : α) : (pure x : Attempt ε σ α).Sure := fun s => ⟨x, s, rfl⟩

theorem sure_modify (f : σ → σ) : (modify f : Attempt ε σ PUnit).Sure := fun s => ⟨⟨⟩, f s, rfl⟩

theorem sure_set (s : σ) : (set s : Attempt ε σ PUnit).Sure := fun _ => ⟨⟨⟩, s, rfl⟩

theorem Sure.bind {a : Attempt ε σ α} {f : α → Attempt ε σ β} (ha : a.Sure)
    (hf : ∀ x, (f x).Sure) : (a >>= f).Sure := by
  intro s
  obtain ⟨x, t, hx⟩ := ha s
  obtain ⟨y, u, hy⟩ := hf x t
  exact ⟨y, u, by simp only [EStateM.run_bind, hx, hy]⟩

theorem Sure.within {a : Attempt ε τ α} (ha : a.Sure) (get : σ → τ) (set : τ → σ → σ) :
    (a.within get set).Sure := by
  intro s
  obtain ⟨x, t, hx⟩ := ha (get s)
  exact ⟨x, set t s, by rw [run_within, hx]⟩

/-! ## Attempts that are refused before they write -/

/-- A refusal leaves the state as it was. -/
def Atomic (a : Attempt ε σ α) : Prop := ∀ s e s', a.run s = .error e s' → s' = s

theorem Reads.atomic {a : Attempt ε σ α} (h : a.Reads) : a.Atomic := by
  intro s e s' he
  rw [← after_of_error he, h s]

theorem Sure.atomic {a : Attempt ε σ α} (h : a.Sure) : a.Atomic := by
  intro s e s' he
  obtain ⟨x, t, hx⟩ := h s
  rw [hx] at he
  cases he

/-- A check may come before anything atomic. -/
theorem Reads.bind {a : Attempt ε σ α} {f : α → Attempt ε σ β} (ha : a.Reads)
    (hf : ∀ x, (f x).Atomic) : (a >>= f).Atomic := by
  intro s e s' he
  rcases run_bind_eq_error.1 he with he | ⟨x, t, hx, he⟩
  · exact ha.atomic s e s' he
  · have ht : t = s := by rw [← after_of_ok hx, ha s]
    rw [hf x t e s' he, ht]

/-- Anything atomic may come before writes that are never refused. -/
theorem Atomic.bind {a : Attempt ε σ α} {f : α → Attempt ε σ β} (ha : a.Atomic)
    (hf : ∀ x, (f x).Sure) : (a >>= f).Atomic := by
  intro s e s' he
  rcases run_bind_eq_error.1 he with he | ⟨x, t, -, he⟩
  · exact ha s e s' he
  · obtain ⟨y, u, hy⟩ := hf x t
    rw [hy] at he
    cases he

theorem Atomic.within {a : Attempt ε τ α} (ha : a.Atomic) {get : σ → τ} {set : τ → σ → σ}
    (set_get : ∀ s, set (get s) s = s) : (a.within get set).Atomic := by
  intro s e s' he
  rw [run_within] at he
  split at he
  · cases he
  · next e₁ t ht =>
    cases he
    rw [ha _ _ _ ht, set_get]

theorem Atomic.withOwn {a : Attempt ε (τ × σ) α} (ha : a.Atomic) (own : τ) :
    (a.withOwn own).Atomic := by
  intro s e s' he
  rw [run_withOwn] at he
  split at he
  · cases he
  · next e₁ t ht =>
    cases he
    rw [ha _ _ _ ht]

/-- What is atomic was granted, or it left the state as it was. -/
theorem Atomic.after_cases {a : Attempt ε σ α} (ha : a.Atomic) (s : σ) :
    (∃ x, a.run s = .ok x (a.after s)) ∨ a.after s = s := by
  cases h : a.run s with
  | ok x s' => exact .inl ⟨x, by rw [after_of_ok h]⟩
  | error e s' => exact .inr ((after_of_error h).trans (ha s e s' h))

/-! ## Properties that survive -/

/-- A property of the state holds afterwards if it held before, refused or not. -/
def Keeps (P : σ → Prop) (a : Attempt ε σ α) : Prop := ∀ s, P s → P (a.after s)

/-- What grants keep, an atomic attempt keeps. -/
theorem Atomic.keeps {P : σ → Prop} {a : Attempt ε σ α} (ha : a.Atomic)
    (granted : ∀ s x s', a.run s = .ok x s' → P s → P s') : a.Keeps P := by
  intro s hs
  simp only [after]
  split
  · next x s' h => exact granted s x s' h hs
  · next e s' h =>
    rw [ha s e s' h]
    exact hs

theorem Reads.keeps {a : Attempt ε σ α} (h : a.Reads) (P : σ → Prop) : a.Keeps P := by
  intro s hs
  rw [h s]
  exact hs

theorem Keeps.bind {P : σ → Prop} {a : Attempt ε σ α} {f : α → Attempt ε σ β} (ha : a.Keeps P)
    (hf : ∀ x, (f x).Keeps P) : (a >>= f).Keeps P := by
  intro s hs
  have hs := ha s hs
  simp only [after, EStateM.run_bind] at hs ⊢
  split at hs
  · next x t hx =>
    simp only [hx]
    exact hf x t hs
  · next e t he =>
    simp only [he]
    exact hs

end ProjectPicker.Attempt
