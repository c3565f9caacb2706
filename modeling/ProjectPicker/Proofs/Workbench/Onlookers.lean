import ProjectPicker.Proofs.Workbench.DistinctNames

/-!
# Listeners that only look

* `QuietAction.looks`, `takeQuiet_looks` : what reads a workbench and leaves it as it is;
* `OnlookersOnly` : all that listeners for added projects do is look;
* `Overheard` : between two workbenches, certain payloads were heard and nothing else was done but
  looking; `Overheard.refl`, `Overheard.trans`;
* `announceAll_overheard` : announcements that onlookers hear always come to an end. Everyone hears
  the names in order, and whoever asks for the ready list is told what it was before them all.
-/

set_option autoImplicit false

namespace ProjectPicker.Workbench

variable {w w' u : Workbench} {heard later : List (String × String)} {depth : Nat}

/-! ## Looking -/

/-- Whether an action does nothing but answer. -/
def QuietAction.looks : QuietAction → Bool
  | .findStack _ | .chosen | .gitTemplate | .zipTemplate | .isFree _ _ | .ready | .edited => true
  | .selector _ (.isChecked _) => true
  | .editor _ (.isFree _) => true
  | .editor _ .draft => true
  | _ => false

theorem takeQuiet_looks {action : QuietAction} (h : action.looks = true) (w : Workbench) :
    (takeQuiet action w).2 = w := by
  cases action with
  | selector id action =>
    cases action with
    | isChecked name =>
      simp only [takeQuiet, takeSelector]
      split <;> rfl
    | _ => cases h
  | editor id action =>
    cases action with
    | isFree name =>
      simp only [takeQuiet, takeEditor]
      split <;> rfl
    | draft =>
      simp only [takeQuiet, takeEditor]
      split <;> rfl
    | _ => cases h
  | findStack => rfl
  | chosen => rfl
  | gitTemplate => rfl
  | zipTemplate => rfl
  | isFree => rfl
  | ready => rfl
  | edited => rfl
  | _ => cases h

def looks : Step → Bool
  | .act (.quiet action) => action.looks
  | _ => false

/-- All that listeners for added projects do is look. -/
def OnlookersOnly (w : Workbench) : Prop :=
  ∀ id l, (id, .listener l) ∈ w.projects.subscribers →
    ∀ payload, ∀ step ∈ l.reactions payload, looks step = true

/-- What is answered to someone who looks. -/
theorem reactions_looks (depth : Nat) {step : Step} (h : looks step = true) (w : Workbench) :
    ∃ outcome, reactions (depth + 1) step w = some (outcome, w) ∧
      (step = .act (.quiet .ready) → outcome = .ok (.templates w.board.ready)) := by
  match step, h with
  | .act (.quiet action), h =>
    refine ⟨(takeQuiet action w).1, ?_, ?_⟩
    · rw [reactions, take_quiet]
      exact congrArg some (Prod.ext rfl (takeQuiet_looks h w))
    · intro asks
      cases asks
      rfl

/-! ## What was heard -/

def heard? : LogEntry → Option (String × String)
  | .heard listener payload => some (listener, payload)
  | .did _ _ _ => none

/-- Between `w` and `w'` these payloads were heard, in this order. The same projects are ready, the
same subscribers listen, and whoever asked which projects are ready was told all of them. -/
structure Overheard (heard : List (String × String)) (w w' : Workbench) : Prop
    extends SameReady w w' where
  log : ∃ new, w'.log = w.log ++ new ∧ new.filterMap heard? = heard ∧
    ∀ l answer, .did l (.act (.quiet .ready)) answer ∈ new →
      answer = .ok (.templates w.board.ready)

namespace Overheard

theorem of_sameReady (same : SameReady w w') (log : w'.log = w.log) : Overheard [] w w' :=
  ⟨same, [], by simp [log], rfl, by simp⟩

theorem refl (w : Workbench) : Overheard [] w w := of_sameReady ⟨rfl, rfl⟩ rfl

theorem trans (h : Overheard heard w u) (h' : Overheard later u w') :
    Overheard (heard ++ later) w w' := by
  obtain ⟨new, hn, hh, told⟩ := h.log
  obtain ⟨new', hn', hh', told'⟩ := h'.log
  refine ⟨⟨h'.projects.trans h.projects, h'.ready.trans h.ready⟩, new ++ new', ?_, ?_, ?_⟩
  · rw [hn', hn, List.append_assoc]
  · rw [List.filterMap_append, hh, hh']
  · intro l answer asked
    rcases List.mem_append.1 asked with asked | asked
    · exact told l answer asked
    · rw [told' l answer asked, h.ready]

/-- A listener is marked while it is served, and the mark is taken away again. -/
theorem served {id : Nat} (h : Overheard heard (projectSlot.modify (·.enter id) w) u) :
    Overheard heard w (projectSlot.modify (·.leave id) u) := by
  obtain ⟨same, log⟩ := h
  refine ⟨⟨?_, same.ready⟩, log⟩
  have entered : u.projects = w.projects.enter id := same.projects
  have left : (projectSlot.modify (·.leave id) u).projects = u.projects.leave id := rfl
  rw [left, entered]
  simp [Channel.enter, Channel.leave]

end Overheard

theorem overheard_heard (listener payload : String) (w : Workbench) :
    Overheard [(listener, payload)] w (record (.heard listener payload) w) :=
  ⟨⟨rfl, rfl⟩, _, rfl, rfl, by simp⟩

theorem overheard_did {step : Step} {outcome : Outcome} (listener : String) (w : Workbench)
    (told : step = .act (.quiet .ready) → outcome = .ok (.templates w.board.ready)) :
    Overheard [] w (record (.did listener step outcome) w) := by
  refine ⟨⟨rfl, rfl⟩, _, rfl, rfl, fun l answer asked => ?_⟩
  cases List.mem_singleton.1 asked
  exact told rfl

/-! ## Announcements -/

theorem takeSteps_overheard {steps : List Step} (h : ∀ step ∈ steps, looks step = true)
    (listener : String) (w : Workbench) :
    ∃ w', Listener.takeSteps (reactions (depth + 1)) record listener steps w = some w' ∧
      Overheard [] w w' := by
  induction steps generalizing w with
  | nil => exact ⟨w, rfl, .refl w⟩
  | cons step rest ih =>
    obtain ⟨outcome, taken, told⟩ := reactions_looks depth (h step (by simp)) w
    obtain ⟨w', further, quiet⟩ := ih (fun later hl => h later (List.mem_cons_of_mem _ hl))
      (record (.did listener step outcome) w)
    refine ⟨w', ?_, (overheard_did listener w told).trans quiet⟩
    rw [Listener.takeSteps, taken]
    exact further

/-- A view that is served writes nothing down. -/
theorem serveProject_view {who : ProjectSubscriber} (view : who.listener? = none)
    (nested : Step → Workbench → Option (Outcome × Workbench)) (name : String) (id : Nat)
    (w : Workbench) :
    ∃ w', serveProject nested name id who w = some w' ∧ w'.log = w.log := by
  cases who with
  | field kind =>
    exact ⟨_, rfl, getD_of (P := fun u => u.log = w.log) (fun u h => actOnField_log h) rfl⟩
  | selector =>
    exact ⟨_, rfl, getD_of (P := fun u => u.log = w.log) (fun u h => actOnSelector_log h) rfl⟩
  | listener l => cases view

/-- Whoever is served hears the name, if it is a listener. -/
theorem serveProject_overheard (depth : Nat) {name : String} (id : Nat) {who : ProjectSubscriber}
    (h : ∀ l, who = .listener l → ∀ step ∈ l.reactions name, looks step = true) (w : Workbench) :
    ∃ w', serveProject (reactions (depth + 1)) name id who w = some w' ∧
      Overheard ((who.listener?.map (·.name)).toList.map (·, name)) w w' := by
  cases hv : who.listener? with
  | none =>
    obtain ⟨w', served, log⟩ := serveProject_view hv (reactions (depth + 1)) name id w
    have same : SameReady w w' := serveProject_quiet (fun l hl => by subst hl; cases hv) served
    exact ⟨w', served, .of_sameReady same log⟩
  | some l =>
    obtain rfl : who = .listener l := by
      cases who <;> cases hv
      rfl
    obtain ⟨w', taken, quiet⟩ := takeSteps_overheard (h l rfl) l.name
      (record (.heard l.name name) w)
    exact ⟨w', taken, (overheard_heard l.name name w).trans quiet⟩

/-- The listeners of a queue, but for those being served already. -/
def hearers (running : List Nat) (queue : List (Nat × ProjectSubscriber)) : List String :=
  queue.flatMap fun who =>
    if running.contains who.1 then [] else (who.2.listener?.map (·.name)).toList

theorem deliver_overheard (depth : Nat) {name : String} {queue : List (Nat × ProjectSubscriber)}
    (h : ∀ id l, (id, .listener l) ∈ queue → ∀ step ∈ l.reactions name, looks step = true)
    (w : Workbench) :
    ∃ n w', projectSlot.deliver (serveProject (reactions (depth + 1)) name) queue w =
        some (n, w') ∧
      Overheard ((hearers w.projects.running queue).map (·, name)) w w' := by
  -- Whoever was served is unmarked again, so the rest of the queue has the same hearers.
  induction queue generalizing w with
  | nil => exact ⟨0, w, rfl, .refl w⟩
  | cons who rest ih =>
    obtain ⟨id, who⟩ := who
    have h_rest := fun id l hm => h id l (List.mem_cons_of_mem _ hm)
    rw [hearers, List.flatMap_cons]
    by_cases running : w.projects.running.contains id = true
    · obtain ⟨n, w', delivered, quiet⟩ := ih h_rest w
      rw [if_pos running, List.nil_append]
      exact ⟨n, w', (projectSlot.deliver_of_running running).trans delivered, quiet⟩
    · have h_who : ∀ l, who = .listener l → ∀ step ∈ l.reactions name, looks step = true :=
        fun l hl => h id l (by simp [hl])
      obtain ⟨t, served, heard⟩ := serveProject_overheard depth id h_who
        (projectSlot.modify (·.enter id) w)
      obtain ⟨n, w', delivered, quiet⟩ := ih h_rest (projectSlot.modify (·.leave id) t)
      rw [if_neg running, List.map_append]
      rw [heard.served.projects] at quiet
      exact ⟨n + 1, w', projectSlot.deliver_of_idle running served delivered,
        heard.served.trans quiet⟩

/-- Announcing names to onlookers comes to an end, and they hear them in order. -/
theorem announceAll_overheard (depth : Nat) (names : List String) (h : OnlookersOnly w) :
    ∃ w', announceAll (reactions (depth + 1)) names w = some w' ∧
      Overheard (names.flatMap fun name =>
        (hearers w.projects.running w.projects.subscribers).map (·, name)) w w' := by
  induction names generalizing w with
  | nil => exact ⟨w, rfl, .refl w⟩
  | cons name rest ih =>
    obtain ⟨n, u, announced, heard⟩ := deliver_overheard depth
      (fun id l hl => h id l hl name) w
    have onlookers : OnlookersOnly u := by
      rw [OnlookersOnly, heard.projects]
      exact h
    obtain ⟨w', further, later⟩ := ih onlookers
    rw [heard.projects] at later
    refine ⟨w', ?_, heard.trans later⟩
    exact Option.bind_eq_some_iff.2 ⟨(n, u), announced, further⟩

end ProjectPicker.Workbench
