import ProjectPicker.Proofs.Attempt

/-!
# What attempts ask for

* `Demands` : conditions in the order in which they are asked for, each with a refusal;
* `Demands.Met`, `Demands.FirstUnmet` : all of them hold, or the refusal is that of the first that
  does not (`met_or_firstUnmet`);
* `Attempt.Asks` : an attempt is granted if its demands are met, and else is refused for the first
  that is not, before it has written anything (`Asks.granted_iff`, `Asks.refused_iff`);
* `Asks.first`, `asks_unmet` : a demand that is met leaves those after it, and one that is not met
  makes an end;
* `Asks.bind`, `Asks.andSure`, `Asks.within`, `Asks.withOwn` : the demands of the parts of an
  attempt are asked one after the other.
-/

set_option autoImplicit false

namespace ProjectPicker

/-- Conditions in the order in which they are asked for, each with the refusal if it does not
hold. -/
abbrev Demands (ε : Type) := List (Prop × ε)

namespace Demands

variable {ε : Type} {ds more : Demands ε} {e e' : ε} {p : Prop}

def Met (ds : Demands ε) : Prop := ∀ d ∈ ds, d.1

/-- The refusal that goes with the first condition that does not hold. -/
inductive FirstUnmet : Demands ε → ε → Prop
  | here {p : Prop} {e : ε} {rest : Demands ε} (unmet : ¬ p) : FirstUnmet ((p, e) :: rest) e
  | later {p : Prop} {e e' : ε} {rest : Demands ε} (met : p) (unmet : FirstUnmet rest e') :
      FirstUnmet ((p, e) :: rest) e'

@[simp] theorem met_nil : Met ([] : Demands ε) := fun _ never => by cases never

@[simp] theorem met_cons : Met ((p, e) :: ds) ↔ p ∧ Met ds := List.forall_mem_cons

@[simp] theorem met_append : Met (ds ++ more) ↔ Met ds ∧ Met more := List.forall_mem_append

theorem firstUnmet_cons :
    FirstUnmet ((p, e) :: ds) e' ↔ (¬ p ∧ e' = e) ∨ (p ∧ FirstUnmet ds e') := by
  constructor
  · intro h
    cases h with
    | here unmet => exact .inl ⟨unmet, rfl⟩
    | later met unmet => exact .inr ⟨met, unmet⟩
  · rintro (⟨unmet, rfl⟩ | ⟨met, unmet⟩)
    · exact .here unmet
    · exact .later met unmet

theorem firstUnmet_append :
    FirstUnmet (ds ++ more) e ↔ FirstUnmet ds e ∨ (Met ds ∧ FirstUnmet more e) := by
  induction ds with
  | nil =>
    constructor
    · exact fun h => .inr ⟨met_nil, h⟩
    · rintro (never | ⟨-, h⟩)
      · cases never
      · exact h
  | cons d rest ih =>
    obtain ⟨p, e₁⟩ := d
    rw [List.cons_append, firstUnmet_cons, firstUnmet_cons, met_cons, ih]
    by_cases hp : p <;> simp [hp]

/-- All conditions hold, or there is a first that does not. -/
theorem met_or_firstUnmet (ds : Demands ε) : Met ds ∨ ∃ e, FirstUnmet ds e := by
  induction ds with
  | nil => exact .inl met_nil
  | cons d rest ih =>
    obtain ⟨p, e⟩ := d
    by_cases hp : p
    · obtain met | ⟨e', unmet⟩ := ih
      · exact .inl (met_cons.2 ⟨hp, met⟩)
      · exact .inr ⟨e', .later hp unmet⟩
    · exact .inr ⟨e, .here hp⟩

end Demands

namespace Attempt

open Demands

variable {ε σ τ α β : Type} {a : Attempt ε σ α} {f : α → Attempt ε σ β} {s s' : σ}
  {ds more : Demands ε} {e : ε}

/-- The attempt is granted if the demands are met; else it is refused for the first that is not, and
has written nothing. -/
structure Asks (a : Attempt ε σ α) (s : σ) (ds : Demands ε) : Prop where
  granted : Met ds → ∃ x s', a.run s = .ok x s'
  refused : ∀ e, FirstUnmet ds e → a.run s = .error e s

theorem Asks.granted_iff (h : a.Asks s ds) : (∃ x s', a.run s = .ok x s') ↔ Met ds := by
  refine ⟨?_, h.granted⟩
  rintro ⟨x, s', ok⟩
  obtain met | ⟨e, unmet⟩ := met_or_firstUnmet ds
  · exact met
  · rw [h.refused e unmet] at ok
    cases ok

theorem Asks.granted_unit_iff {a : Attempt ε σ Unit} (h : a.Asks s ds) :
    (∃ s', a.run s = .ok () s') ↔ Met ds := by
  rw [← h.granted_iff]
  constructor
  · rintro ⟨s', ok⟩
    exact ⟨(), s', ok⟩
  · rintro ⟨⟨⟩, s', ok⟩
    exact ⟨s', ok⟩

theorem Asks.refused_iff (h : a.Asks s ds) :
    a.run s = .error e s' ↔ FirstUnmet ds e ∧ s' = s := by
  constructor
  · intro error
    obtain met | ⟨e', unmet⟩ := met_or_firstUnmet ds
    · obtain ⟨x, t, ok⟩ := h.granted met
      cases ok.symm.trans error
    · cases (h.refused e' unmet).symm.trans error
      exact ⟨unmet, rfl⟩
  · rintro ⟨unmet, rfl⟩
    exact h.refused e unmet

/-! ## The demands of the parts -/

theorem asks_sure (h : a.Sure) (s : σ) : a.Asks s [] :=
  ⟨fun _ => h s, fun _ never => by cases never⟩

theorem Asks.first {p : Prop} (h : a.Asks s ds) (met : p) (e : ε) : a.Asks s ((p, e) :: ds) := by
  constructor
  · exact fun all => h.granted (met_cons.1 all).2
  · intro e' unmet
    obtain ⟨never, -⟩ | ⟨-, later⟩ := firstUnmet_cons.1 unmet
    · exact absurd met never
    · exact h.refused e' later

/-- Where the first demand is not met, those after it do not matter. -/
theorem asks_unmet {p : Prop} (unmet : ¬ p) (refused : a.run s = .error e s) :
    a.Asks s ((p, e) :: ds) := by
  constructor
  · exact fun all => absurd (met_cons.1 all).1 unmet
  · intro e' first
    obtain ⟨-, rfl⟩ | ⟨met, -⟩ := firstUnmet_cons.1 first
    · exact refused
    · exact absurd met unmet

theorem asks_require {condition : Bool} {p : Prop} (same : condition = true ↔ p) (e : ε) (s : σ) :
    (require condition e : Attempt ε σ Unit).Asks s [(p, e)] := by
  by_cases hp : p
  · rw [require, if_pos (same.2 hp)]
    exact (asks_sure (sure_pure ()) s).first hp e
  · refine asks_unmet hp ?_
    rw [require, if_neg (mt same.1 hp)]
    rfl

theorem asks_get {f : σ → Attempt ε σ β} (h : (f s).Asks s ds) :
    ((get : Attempt ε σ σ) >>= f).Asks s ds := ⟨h.granted, h.refused⟩

/-- What comes after a check asks in a state where the demands of the check are met. -/
theorem Asks.bind (h : a.Asks s ds) (reads : a.Reads)
    (hf : ∀ x, Met ds → a.run s = .ok x s → (f x).Asks s more) :
    (a >>= f).Asks s (ds ++ more) := by
  have passed : Met ds → ∃ x, a.run s = .ok x s := by
    intro met
    obtain ⟨x, t, ok⟩ := h.granted met
    have same : t = s := by rw [← after_of_ok ok, reads s]
    exact ⟨x, same ▸ ok⟩
  constructor
  · intro met
    obtain ⟨first, later⟩ := met_append.1 met
    obtain ⟨x, ok⟩ := passed first
    obtain ⟨y, t, granted⟩ := (hf x first ok).granted later
    exact ⟨y, t, by rw [run_bind_of_ok ok, granted]⟩
  · intro e unmet
    obtain first | ⟨first, later⟩ := firstUnmet_append.1 unmet
    · rw [EStateM.run_bind, h.refused e first]
    · obtain ⟨x, ok⟩ := passed first
      rw [run_bind_of_ok ok]
      exact (hf x first ok).refused e later

/-- What is never refused asks for nothing more. -/
theorem Asks.andSure (h : a.Asks s ds) (hf : ∀ x, (f x).Sure) : (a >>= f).Asks s ds := by
  constructor
  · intro met
    obtain ⟨x, t, ok⟩ := h.granted met
    obtain ⟨y, u, granted⟩ := hf x t
    exact ⟨y, u, by rw [run_bind_of_ok ok, granted]⟩
  · intro e unmet
    rw [EStateM.run_bind, h.refused e unmet]

theorem Asks.within {a : Attempt ε τ α} {get : σ → τ} {set : τ → σ → σ} (h : a.Asks (get s) ds)
    (set_get : set (get s) s = s) : (a.within get set).Asks s ds := by
  constructor
  · intro met
    obtain ⟨x, t, ok⟩ := h.granted met
    exact ⟨x, set t s, by rw [run_within, ok]⟩
  · intro e unmet
    rw [run_within, h.refused e unmet]
    exact congrArg _ set_get

theorem Asks.withOwn {a : Attempt ε (τ × σ) α} {own : τ} (h : a.Asks (own, s) ds) :
    (a.withOwn own).Asks s ds := by
  constructor
  · intro met
    obtain ⟨x, t, ok⟩ := h.granted met
    exact ⟨x, t.2, by rw [run_withOwn, ok]⟩
  · intro e unmet
    rw [run_withOwn, h.refused e unmet]

/-- Demands that are met anyway may be left out at the end. -/
theorem Asks.settle (ds : Demands ε) (h : a.Asks s (ds ++ more)) (met : Met more) : a.Asks s ds :=
  ⟨fun first => h.granted (met_append.2 ⟨first, met⟩),
    fun e unmet => h.refused e (firstUnmet_append.2 (.inl unmet))⟩

end Attempt

end ProjectPicker
