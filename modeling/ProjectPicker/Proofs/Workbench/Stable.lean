import ProjectPicker.Proofs.Attempt
import ProjectPicker.Proofs.Publication
import ProjectPicker.Proofs.Workbench.Frame

/-!
# What holds of a workbench at any time

* `Workbench.Reachable` : the workbenches that steps lead to; `Workbench.takeAll` takes several;
* `Workbench.Observed` : in the course of a step, someone is notified while the workbench is in some
  state, or a listener has just taken a step that led there, to whatever depth listeners react;
* `Workbench.Stable` : a property that nothing destroys which a workbench does between two
  notifications;
* `Stable.take`, `Stable.observed` : such a property holds after every step, to whatever depth
  listeners react, and at all that is observed in its course;
* `Workbench.Conducted` : the workbenches that steps lead to where listeners do as they like, as
  long as it is steps (`Stable.conducted`, `Reachable.conducted`);
* `Workbench.Poised` : the workbenches on which someone may be about to take a step, be it a
  listener in the course of another step (`Stable.poised`).
-/

set_option autoImplicit false

namespace ProjectPicker.Workbench

variable {nested : Step → Workbench → Option (Outcome × Workbench)} {depth : Nat} {step : Step}
  {w w' v : Workbench} {outcome : Outcome} {stackList : List Stack}

/-- The workbenches that steps lead to, whoever listens and to whatever depth. -/
inductive Reachable (stackList : List Stack) : Workbench → Prop
  | start : Reachable stackList (start stackList)
  | take {depth : Nat} {step : Step} {w w' : Workbench} {outcome : Outcome}
      (earlier : Reachable stackList w) (taken : take depth step w = some (outcome, w')) :
      Reachable stackList w'

def takeAll (depth : Nat) : List Step → Workbench → Option Workbench
  | [], w => some w
  | step :: rest, w => (take depth step w).bind fun r => takeAll depth rest r.2

theorem Reachable.takeAll {steps : List Step} (earlier : Reachable stackList w)
    (taken : takeAll depth steps w = some w') : Reachable stackList w' := by
  induction steps generalizing w with
  | nil =>
    cases taken
    exact earlier
  | cons step rest ih =>
    obtain ⟨⟨outcome, u⟩, hu, taken⟩ := Option.bind_eq_some_iff.1 taken
    exact ih (earlier.take hu) taken

def reactions : Nat → Step → Workbench → Option (Outcome × Workbench)
  | 0 => fun _ _ => none
  | depth + 1 => take depth

theorem take_eq (depth : Nat) : take depth = perform (reactions depth) := by
  cases depth <;> rfl

/-! ## Notifications -/

/-- What is announced: an added project, or that the active stack changed. -/
inductive Publication where
  | project (name : String)
  | stack

/-- In the course of a step, but not of what listeners do meanwhile, a publication begins while the
workbench is in the state `v`. -/
inductive Publishes (nested : Step → Workbench → Option (Outcome × Workbench)) :
    Step → Workbench → Publication → Workbench → Prop
  | publish {name : String} {w : Workbench} :
      Publishes nested (.act (.publish name)) w (.project name) w
  | selectStack {id : Option String} {w : Workbench} :
      Publishes nested (.act (.selectStack id)) w .stack
        { w with board := { w.board with activeStack := id } }
  | add {source : Source} {w v : Workbench} {before after : List String} {name : String}
      {board : Board}
      (taken : (Board.takeIn source).run w.board = .ok (before ++ name :: after) board)
      (announced : announceAll nested before { w with board } = some v) :
      Publishes nested (.act (.add source)) w (.project name) v

/-- The listener behind a subscription, unless it is a view's. -/
def ProjectSubscriber.listener? : ProjectSubscriber → Option Listener
  | .listener l => some l
  | _ => none

@[inherit_doc ProjectSubscriber.listener?]
def StackSubscriber.listener? : StackSubscriber → Option Listener
  | .listener l => some l
  | .selector => none

/-- A publication that began in the state `w` notifies someone while the workbench is in the state
`v`; a listener comes with the payload that it hears. -/
inductive Publication.Notifies (nested : Step → Workbench → Option (Outcome × Workbench)) :
    Publication → Workbench → Option (Listener × String) → Workbench → Prop
  | project {name : String} {w v : Workbench} {who : Nat × ProjectSubscriber}
      (serving : projectSlot.Serving (serveProject nested name) w.projects.subscribers w who v) :
      Notifies nested (.project name) w (who.2.listener?.map (·, name)) v
  | stack {w v : Workbench} {who : Nat × StackSubscriber}
      (serving : stackSlot.Serving (serveStack nested) w.stackChanges.subscribers w who v) :
      Notifies nested .stack w (who.2.listener?.map (·, stackPayload)) v

/-- In the course of a step someone is notified while the workbench is in the state `v`, or a
listener has just taken a step that led to the state `v`. -/
inductive Observed : Nat → Step → Workbench → Workbench → Prop
  | notified {depth : Nat} {step : Step} {w u v : Workbench} {p : Publication}
      {who : Option (Listener × String)} (publishes : Publishes (reactions depth) step w p u)
      (notifies : p.Notifies (reactions depth) u who v) : Observed depth step w v
  | taken {depth : Nat} {step step' : Step} {w u v v' z : Workbench} {p : Publication}
      {l : Listener} {payload : String} {outcome : Outcome}
      (publishes : Publishes (take depth) step w p u)
      (notifies : p.Notifies (take depth) u (some (l, payload)) v)
      (taking : Listener.Taking (take depth) record l.name (l.reactions payload)
        (record (.heard l.name payload) v) step' v')
      (done : take depth step' v' = some (outcome, z)) : Observed (depth + 1) step w z
  | within {depth : Nat} {step step' : Step} {w u v v' z : Workbench} {p : Publication}
      {l : Listener} {payload : String} (publishes : Publishes (take depth) step w p u)
      (notifies : p.Notifies (take depth) u (some (l, payload)) v)
      (taking : Listener.Taking (take depth) record l.name (l.reactions payload)
        (record (.heard l.name payload) v) step' v')
      (inner : Observed depth step' v' z) : Observed (depth + 1) step w z

/-! ## Stable properties -/

/-- A property that nothing destroys which a workbench does between two notifications. -/
structure Stable (P : Workbench → Prop) : Prop where
  quiet : ∀ action w, P w → P (takeQuiet action w).2
  subscribe : ∀ topic l w, P w → P (w.subscribe topic l).2
  record : ∀ entry w, P w → P (record entry w)
  activate : ∀ id w, P w → P { w with board := { w.board with activeStack := id } }
  takeIn : ∀ source w, P w → P { w with board := (Board.takeIn source).after w.board }
  enterProject : ∀ id w, P w → P (projectSlot.modify (·.enter id) w)
  leaveProject : ∀ id w, P w → P (projectSlot.modify (·.leave id) w)
  enterStack : ∀ id w, P w → P (stackSlot.modify (·.enter id) w)
  leaveStack : ∀ id w, P w → P (stackSlot.modify (·.leave id) w)
  fieldHears : ∀ kind name id w w',
    w.actOnField kind (·.subscription == id) (kind.clear name) = some w' → P w → P w'
  selectorHears : ∀ name id w w',
    w.actOnSelector (·.subscription == id) (Selector.added name) = some w' → P w → P w'
  selectorFollows : ∀ id w w',
    w.actOnSelector (·.stackSubscription == id) (fun s b => (s.stackChanged b, b)) = some w' →
      P w → P w'

namespace Stable

variable {P : Workbench → Prop}

section Nested

variable (hP : Stable P) (hn : ∀ step w outcome w', nested step w = some (outcome, w') → P w → P w')

include hP hn

theorem serveProject {name : String} {id : Nat} {who : ProjectSubscriber} (hw : P w)
    (h : serveProject nested name id who w = some w') : P w' := by
  cases who with
  | field kind =>
    cases h
    exact getD_of (fun u hu => hP.fieldHears kind name id w u hu hw) hw
  | selector =>
    cases h
    exact getD_of (fun u hu => hP.selectorHears name id w u hu hw) hw
  | listener l => exact Listener.keeps_hear hP.record hn hw h

theorem serveStack {id : Nat} {who : StackSubscriber} (hw : P w)
    (h : serveStack nested id who w = some w') : P w' := by
  cases who with
  | selector =>
    cases h
    exact getD_of (fun u hu => hP.selectorFollows id w u hu hw) hw
  | listener l => exact Listener.keeps_hear hP.record hn hw h

theorem announce {name : String} {served : Nat} (hw : P w)
    (h : announce nested name w = some (served, w')) : P w' :=
  projectSlot.keeps_deliver hP.enterProject hP.leaveProject
    (fun _ _ _ _ _ h hw => hP.serveProject hn hw h) hw h

theorem announceAll {names : List String} (hw : P w)
    (h : announceAll nested names w = some w') : P w' := by
  induction names generalizing w with
  | nil =>
    cases h
    exact hw
  | cons name rest ih =>
    obtain ⟨⟨served, u⟩, hu, h⟩ := Option.bind_eq_some_iff.1 h
    exact ih (hP.announce hn hw hu) h

theorem perform (hw : P w) (h : perform nested step w = some (outcome, w')) : P w' := by
  cases step with
  | subscribe topic name on =>
    cases h
    exact hP.subscribe topic _ w hw
  | act action =>
    cases action with
    | publish name =>
      obtain ⟨⟨served, u⟩, hu, h⟩ := Option.bind_eq_some_iff.1 h
      cases h
      exact hP.announce hn hw hu
    | selectStack id =>
      obtain ⟨u, hu, h⟩ := Option.bind_eq_some_iff.1 h
      obtain ⟨⟨served, t⟩, ht, hu⟩ := Option.bind_eq_some_iff.1 hu
      cases h
      cases hu
      exact stackSlot.keeps_deliver hP.enterStack hP.leaveStack
        (fun _ _ _ _ _ h hw => hP.serveStack hn hw h) (hP.activate id w hw) ht
    | add source =>
      have hw := hP.takeIn source w hw
      simp only [Workbench.perform, add, Attempt.after] at h hw
      split at h
      · next r board hr =>
        cases h
        simpa only [hr] using hw
      · next names board hr =>
        obtain ⟨u, hu, h⟩ := Option.bind_eq_some_iff.1 h
        cases h
        exact hP.announceAll hn (by simpa only [hr] using hw) hu
    | quiet action =>
      obtain rfl := congrArg Prod.snd (Option.some.inj h)
      exact hP.quiet action w hw

theorem publishes {p : Publication} (hw : P w) (h : Publishes nested step w p v) : P v := by
  cases h with
  | publish => exact hw
  | selectStack => exact hP.activate _ w hw
  | @add source _ _ before after name board taken announced =>
    have hw := hP.takeIn source w hw
    rw [Attempt.after_of_ok taken] at hw
    exact hP.announceAll hn hw announced

theorem notifies {p : Publication} {who : Option (Listener × String)} (hw : P w)
    (h : p.Notifies nested w who v) : P v := by
  cases h with
  | project serving =>
    exact serving.keeps hP.enterProject hP.leaveProject
      (fun _ _ _ _ h hw => hP.serveProject hn hw h) hw
  | stack serving =>
    exact serving.keeps hP.enterStack hP.leaveStack
      (fun _ _ _ _ h hw => hP.serveStack hn hw h) hw

/-- When a listener is notified and takes its steps, a stable property holds before each. -/
theorem taking {p : Publication} {l : Listener} {payload : String} {step' : Step}
    {u v v' : Workbench} (hw : P w) (publishes : Publishes nested step w p u)
    (notifies : p.Notifies nested u (some (l, payload)) v)
    (taking : Listener.Taking nested Workbench.record l.name (l.reactions payload)
      (Workbench.record (.heard l.name payload) v) step' v') : P v' := by
  have hv := hP.notifies hn (hP.publishes hn hw publishes) notifies
  exact taking.keeps hP.record hn (hP.record _ _ hv)

end Nested

/-- A stable property survives every step, to whatever depth listeners react. -/
theorem take (hP : Stable P) (hw : P w) (h : take depth step w = some (outcome, w')) : P w' := by
  induction depth generalizing step w outcome w' with
  | zero => exact hP.perform (fun _ _ _ _ h _ => by cases h) hw h
  | succ depth ih => exact hP.perform (fun _ _ _ _ h hw => ih hw h) hw h

theorem reactions (hP : Stable P) (hw : P w) (h : reactions depth step w = some (outcome, w')) :
    P w' := by
  cases depth with
  | zero => cases h
  | succ depth => exact hP.take hw h

/-- A stable property holds at all that is observed in the course of a step. -/
theorem observed (hP : Stable P) (hw : P w) (h : Observed depth step w v) : P v := by
  induction h with
  | @notified depth _ _ _ _ _ _ publishes notifies =>
    have hn : ∀ step w outcome w', Workbench.reactions depth step w = some (outcome, w') →
        P w → P w' := fun _ _ _ _ h hw => hP.reactions hw h
    exact hP.notifies hn (hP.publishes hn hw publishes) notifies
  | taken publishes notifies taking done =>
    have hv := hP.taking (fun _ _ _ _ h hw => hP.take hw h) hw publishes notifies taking
    exact hP.take hv done
  | within publishes notifies taking _ ih =>
    exact ih (hP.taking (fun _ _ _ _ h hw => hP.take hw h) hw publishes notifies taking)

theorem reachable (hP : Stable P) (hstart : P (start stackList)) (h : Reachable stackList w) :
    P w := by
  induction h with
  | start => exact hstart
  | take _ taken ih => exact hP.take ih taken

end Stable

/-! ## Listeners that do as they like -/

/-- The workbenches that steps lead to, whatever listeners do meanwhile. They need not go by a list:
what a listener does may depend on all that has happened, as long as it takes steps. -/
inductive Conducted : Workbench → Workbench → Prop
  | refl (w : Workbench) : Conducted w w
  | perform {nested : Step → Workbench → Option (Outcome × Workbench)} {step : Step}
      {outcome : Outcome} {w u w' : Workbench}
      (conduct : ∀ step w outcome w', nested step w = some (outcome, w') → Conducted w w')
      (earlier : Conducted w u) (taken : perform nested step u = some (outcome, w')) :
      Conducted w w'

theorem Conducted.take (earlier : Conducted w v) (taken : take depth step v = some (outcome, w')) :
    Conducted w w' := by
  induction depth generalizing step w v outcome w' with
  | zero => exact earlier.perform (fun _ _ _ _ never => by cases never) taken
  | succ depth ih => exact earlier.perform (fun _ u _ _ taken => ih (.refl u) taken) taken

theorem Stable.conducted {P : Workbench → Prop} (hP : Stable P) (h : Conducted w w') (hw : P w) :
    P w' := by
  induction h with
  | refl w => exact hw
  | perform _ _ taken conduct earlier =>
    exact hP.perform (fun _ _ _ _ done hw => conduct _ _ _ _ done hw) (earlier hw) taken

/-- Going by a list is one of the ways. -/
theorem Reachable.conducted (h : Reachable stackList w) :
    Conducted (Workbench.start stackList) w := by
  induction h with
  | start => exact .refl _
  | take _ taken ih => exact ih.take taken

/-- The workbenches on which someone may be about to take a step: after any steps, whatever
listeners did meanwhile, or as a listener in the course of a step. -/
inductive Poised (stackList : List Stack) : Workbench → Prop
  | between {w : Workbench} (led : Conducted (start stackList) w) : Poised stackList w
  | during {nested : Step → Workbench → Option (Outcome × Workbench)} {step step' : Step}
      {w u v v' : Workbench} {p : Publication} {l : Listener} {payload : String}
      (conduct : ∀ step w outcome w', nested step w = some (outcome, w') → Conducted w w')
      (earlier : Poised stackList w) (publishes : Publishes nested step w p u)
      (notifies : p.Notifies nested u (some (l, payload)) v)
      (taking : Listener.Taking nested record l.name (l.reactions payload)
        (record (.heard l.name payload) v) step' v') : Poised stackList v'

theorem Stable.poised {P : Workbench → Prop} (hP : Stable P)
    (hstart : P (Workbench.start stackList)) (h : Poised stackList w) : P w := by
  induction h with
  | between led => exact hP.conducted led hstart
  | during conduct _ publishes notifies taking ih =>
    refine hP.taking (fun _ _ _ _ done hw => ?_) ih publishes notifies taking
    exact hP.conducted (conduct _ _ _ _ done) hw

end ProjectPicker.Workbench
