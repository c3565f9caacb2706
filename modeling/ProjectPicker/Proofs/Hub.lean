import ProjectPicker.Channel.Hub
import ProjectPicker.Proofs.Delivery

/-!
# What goes on in a hub

* `reactions`, `take_eq` : a step, and the steps of the listeners that react to it;
* `Hub.Frame`, `Frame.take` : a relation that covers whatever is done to a hub covers whole steps,
  to whatever depth listeners react;
* `frame_leads`, `behaved_hears` : all that is done to the channel is to use it;
* `Hub.Reached` : the hubs that steps lead to, also in the middle of a publication, when a listener
  is about to take a step;
* `Reached.code` : in these code runs that uses the channel.
-/

set_option autoImplicit false

namespace ProjectPicker.Hub

open Channel (Event)

variable {nested : Step → Hub → Option (Answer × Hub)} {depth : Nat} {step : Step}
  {answer : Answer} {h h' v : Hub} {enclosing : List Nat} {payload : String}

/-- The steps of listeners that react to `depth` levels at most. -/
def reactions : Nat → Step → Hub → Option (Answer × Hub)
  | 0 => fun _ _ => none
  | depth + 1 => take depth

theorem take_eq (depth : Nat) : take depth = perform (reactions depth) := by
  cases depth <;> rfl

/-- A listener hears a payload, whatever number its subscription has. -/
def hears (nested : Step → Hub → Option (Answer × Hub)) (payload : String) (_ : Nat)
    (l : Listener) : Hub → Option Hub :=
  l.hear nested record payload

/-! ## What a step keeps, whatever listeners do meanwhile -/

/-- A relation between an earlier and a later hub that holds for whatever is done to a hub, and also
across the serving of a listener if it holds within. -/
structure Frame (R : Hub → Hub → Prop) : Prop where
  elsewhere : ∀ {h h'}, h'.channel = h.channel → h'.held = h.held → R h h'
  trans : ∀ h u h', R h u → R u h' → R h h'
  subscribe : ∀ h l, R h (h.subscribe l).2
  release : ∀ h name, R h (h.release name).2
  serve : ∀ id h u, R (slot.modify (·.enter id) h) u → R h (slot.modify (·.leave id) u)

namespace Frame

variable {R : Hub → Hub → Prop}

theorem refl (frame : Frame R) (h : Hub) : R h h := frame.elsewhere rfl rfl

theorem record (frame : Frame R) (entry : LogEntry) (u : Hub) (before : R h u) :
    R h (record entry u) :=
  frame.trans _ _ _ before (frame.elsewhere rfl rfl)

section Nested

variable (frame : Frame R)
  (hn : ∀ step h answer h', nested step h = some (answer, h') → R h h')

include frame hn

theorem hear {l : Listener} (heard : l.hear nested Hub.record payload h = some h') : R h h' :=
  Listener.keeps_hear (P := R h) frame.record
    (fun _ _ _ _ taken before => frame.trans _ _ _ before (hn _ _ _ _ taken)) (frame.refl h) heard

theorem perform (taken : perform nested step h = some (answer, h')) : R h h' := by
  cases step with
  | subscribe topic name on =>
    simp only [Hub.perform] at taken
    split at taken
    · obtain rfl := congrArg Prod.snd (Option.some.inj taken)
      exact frame.subscribe h ⟨name, on⟩
    · cases taken
      exact frame.refl _
  | act action =>
    cases action with
    | publish payload =>
      simp only [Hub.perform] at taken
      split at taken
      · obtain ⟨⟨served, u⟩, published, taken⟩ := Option.bind_eq_some_iff.1 taken
        cases taken
        exact Slot.relates_deliver frame.refl frame.trans
          (fun id _ h _ _ heard => frame.serve id h _ (frame.hear hn heard)) published
      · cases taken
        exact frame.refl _
    | unsubscribe name =>
      obtain rfl := congrArg Prod.snd (Option.some.inj taken)
      exact frame.release h name
    | drop name =>
      obtain rfl := congrArg Prod.snd (Option.some.inj taken)
      exact frame.release h name
    | count =>
      cases taken
      exact frame.refl _
    | debug name =>
      cases taken
      exact frame.refl _
    | close =>
      cases taken
      exact frame.elsewhere rfl rfl

end Nested

/-- Every step is within the frame, to whatever depth listeners react. -/
theorem take (frame : Frame R) (taken : take depth step h = some (answer, h')) : R h h' := by
  induction depth generalizing step h answer h' with
  | zero => exact frame.perform (fun _ _ _ _ never => by cases never) taken
  | succ depth ih => exact frame.perform (fun _ _ _ _ taken => ih taken) taken

theorem reactions (frame : Frame R) (taken : reactions depth step h = some (answer, h')) :
    R h h' := by
  cases depth with
  | zero => cases taken
  | succ depth => exact frame.take taken

end Frame

/-! ## Steps use the channel -/

theorem leads_release (h : Hub) (name : String) : slot.Leads h (h.release name).2 := by
  unfold release
  split
  · next id _ =>
    have ended : slot.Uses [.ended id] h (slot.modify (·.unsubscribe id) h) := .unsubscribe id h
    exact ⟨_, ended.trans (.elsewhere rfl)⟩
  · exact .refl slot h

theorem leads_subscribe (h : Hub) (l : Listener) : slot.Leads h (h.subscribe l).2 := by
  have made : slot.Leads h (slot.modify (·.subscribe l) h) := ⟨_, .subscribe l h⟩
  exact (made.trans (leads_release _ l.name)).trans (Slot.leads_elsewhere rfl)

/-- All that is done to the channel of a hub is to use it. -/
theorem frame_leads : Frame slot.Leads where
  elsewhere channel _ := Slot.leads_elsewhere channel
  trans _ _ _ := .trans
  subscribe := leads_subscribe
  release := leads_release
  serve _ _ _ := .serve

theorem behaved_hears (depth : Nat) (payload : String) :
    slot.Behaved (hears (reactions depth) payload) :=
  fun _ _ _ _ => frame_leads.hear fun _ _ _ _ => frame_leads.reactions

/-! ## Reachable hubs -/

/-- The hubs that steps lead to, with the subscriptions being served around them, the innermost
first. Within a publication those count in which a listener is about to take a step. -/
inductive Reached : List Nat → Hub → Prop
  | start : Reached [] {}
  | take {enclosing : List Nat} {depth : Nat} {step : Step} {answer : Answer} {h h' : Hub}
      (earlier : Reached enclosing h) (taken : take depth step h = some (answer, h')) :
      Reached enclosing h'
  | within {enclosing : List Nat} {depth id : Nat} {payload : String} {l : Listener} {step : Step}
      {h u v : Hub} (earlier : Reached enclosing h) (isOpen : h.isOpen = true)
      (serving : slot.Serving (hears (reactions depth) payload) h.channel.subscribers h (id, l) u)
      (taking : Listener.Taking (reactions depth) record l.name (l.reactions payload)
        (record (.heard l.name payload) u) step v) :
      Reached (id :: enclosing) v

/-- Wherever a hub is reached, at top level or while a listener takes its steps, code runs that uses
the channel. -/
theorem Reached.code (reached : Reached enclosing h) :
    ∃ history, slot.Reached history enclosing h := by
  induction reached with
  | start => exact ⟨[], .start rfl⟩
  | take _ taken ih =>
    obtain ⟨history, reached⟩ := ih
    obtain ⟨events, used⟩ := frame_leads.take taken
    exact ⟨_, reached.uses used⟩
  | within _ _ serving taking ih =>
    obtain ⟨history, reached⟩ := ih
    obtain ⟨later, reached⟩ := reached.serving (behaved_hears _ _) serving
    obtain ⟨events, used⟩ := taking.keeps (P := slot.Leads _) frame_leads.record
      (fun _ _ _ _ taken before => before.trans (frame_leads.reactions taken))
      (frame_leads.record _ _ (.refl slot _))
    exact ⟨_, reached.uses used⟩

end ProjectPicker.Hub
