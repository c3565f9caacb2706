import ProjectPicker.Proofs.Session.Audience
import ProjectPicker.Proofs.Workbench.Subscriptions

/-!
# No subscription is left behind

* `subscriptions_owned` : at any time, also while subscribers are being served, the channels of a
  workbench have as many subscribers as there are views attached and listeners held, a view that has
  left changes nothing any more, and one that leaves takes all its subscriptions along. When a
  session ends, its listeners are left and nobody else.
-/

set_option autoImplicit false

namespace ProjectPicker

open Workbench (Conducted Observed takeAll reactions serveProject projectSlot)

/-- Whatever steps are taken on a workbench, by whomever and in the course of whatever: the
subscriptions are those of the views that are attached and of the listeners that are held. A view
whose subscription has ended changes nothing when a publication that began before comes to it. Views
that are detached leave with all their subscriptions, and one that is attached is the only one of
its name. And whatever is done with a session, its channel serves the three views and the listeners
that joined and have not left; when it ends, each view ends its own subscription, and those
listeners are left. -/
theorem subscriptions_owned (stackList : List Stack) :
    (∀ w, Conducted (Workbench.start stackList) w →
      (w.Tallied ∧ w.Silent ∧ w.Orderly) ∧
        ∀ depth step v, Observed depth step w v → v.Tallied ∧ v.Silent ∧ v.Orderly) ∧
    ∀ (ε : Type) (ops : List (Session.Operation ε)),
      let s := (Session.start stackList).run ops
      s.channel.size = 3 + (Session.audience ops).length ∧
        s.finish = ((s.channel.unsubscribe 0).unsubscribe 1).unsubscribe 2 ∧
        s.finish.subscribers.map Prod.snd =
          (Session.audience ops).map Session.Subscriber.listener := by
  constructor
  · intro w conducted
    have accounted :=
      Workbench.stable_accounted.conducted conducted (Workbench.accounted_start stackList)
    refine ⟨⟨accounted.tallied, accounted.silent, accounted.orderly⟩,
      fun depth step v observed => ?_⟩
    have meanwhile := Workbench.stable_accounted.observed accounted observed
    exact ⟨meanwhile.tallied, meanwhile.silent, meanwhile.orderly⟩
  · intro ε ops
    have attended := Session.attended_run stackList ops
    exact ⟨attended.size_eq, attended.finish_eq, attended.finish_subscribers⟩

/-- A listener joins first that has the Git field leave and two selectors join under one name
whenever a project is announced; then both fields join. -/
def doorkept : Option Workbench :=
  takeAll 1 [.subscribe .projects "doorkeeper" [("*", [.act (.quiet (.detachGit "g")),
      .act (.quiet (.attachSelector "t")), .act (.quiet (.attachSelector "t"))])],
    .act (.quiet (.attachGit "g")), .act (.quiet (.attachZip "z"))] (Workbench.start [])

/-- A project is announced, and the first subscriber has reacted. -/
def departed : Option Workbench :=
  doorkept.bind fun w => w.projects.subscribers.head?.bind fun x =>
    serveProject (reactions 1) "x" x.1 x.2 (projectSlot.modify (·.enter x.1) w)

/-- When it is the Git field's turn, the field has left, and changes nothing; of the two selectors
the second is there, and takes both its subscriptions along if it leaves. In a session the listener
is left that has joined anew. -/
theorem subscriptions_owned_departed :
    ∃ w v, doorkept = some w ∧ Observed 1 (.act (.publish "x")) w v ∧
      (w.gitFields.length, v.gitFields.length, v.selectors.map (·.subscription)) = (1, 0, [4]) ∧
      v.projects.size = v.gitFields.length + v.zipFields.length + v.selectors.length +
        v.heldOn .projects ∧
      serveProject (reactions 1) "x" 1 (.field .git) v = some v ∧
      v.detachSelector "t" = (true, { v with
        selectors := []
        projects := v.projects.without [4]
        stackChanges := v.stackChanges.without [1] }) ∧
      ((Session.start []).run [.listen "a", .listen "b", .listen "a",
        (.unlisten "b" : Session.Operation Unit)]).finish.subscribers.map Prod.snd =
          [.listener "a"] := by
  have before : (doorkept.map fun w => (w.gitFields.length, w.projects.running,
      w.projects.subscribers.map fun x => (x.1, x.2.role))) =
        some (1, [], [(0, .listener "doorkeeper"), (1, .field .git), (2, .field .zip)]) := by
    decide +kernel
  have after : (departed.map fun t => (t.gitFields.length,
      t.selectors.map (fun a => (a.id, a.subscription, a.stackSubscription)),
      t.projects.running, t.projects.subscribers.map Prod.fst)) =
        some (0, [("t", 4, 1)], [0], [0, 2, 4]) := by
    decide +kernel
  obtain ⟨t, reacted, facts⟩ := Option.map_eq_some_iff.1 after
  obtain ⟨left, facts⟩ := Prod.mk.inj facts
  obtain ⟨labels, facts⟩ := Prod.mk.inj facts
  obtain ⟨running, numbers⟩ := Prod.mk.inj facts
  obtain ⟨w, taken, reacted⟩ := Option.bind_eq_some_iff.1 reacted
  obtain ⟨⟨id, who⟩, first, reacted⟩ := Option.bind_eq_some_iff.1 reacted
  rw [taken] at before
  obtain ⟨attached, facts⟩ := Prod.mk.inj (Option.some.inj before)
  obtain ⟨idle, queue⟩ := Prod.mk.inj facts
  obtain ⟨rest, split⟩ := List.head?_eq_some_iff.1 first
  rw [split, List.map_cons] at queue
  obtain ⟨number, others⟩ := List.cons.inj queue
  obtain rfl : id = 0 := congrArg Prod.fst number
  obtain ⟨⟨n, next⟩, rest', rfl, second, -⟩ := List.map_eq_cons_iff.1 others
  obtain ⟨rfl, git⟩ := Prod.mk.inj second
  obtain rfl : next = .field .git := by
    cases next with
    | field kind =>
      cases git
      rfl
    | _ => cases git
  -- The listener is served first; `v` is where the Git field begins to be served.
  let v := projectSlot.modify (·.enter 1) (projectSlot.modify (·.leave 0) t)
  have idle_first : (projectSlot.get w).running.contains 0 = false := by
    change w.projects.running.contains 0 = false
    rw [idle]
    rfl
  have idle_second :
      (projectSlot.get (projectSlot.modify (·.leave 0) t)).running.contains 1 = false := by
    change (t.projects.running.erase 0).contains 1 = false
    rw [running]
    rfl
  have serving : projectSlot.Serving (serveProject (reactions 1) "x") w.projects.subscribers w
      (1, .field .git) v := by
    rw [split]
    exact .served idle_first reacted (.now idle_second)
  have observed : Observed 1 (.act (.publish "x")) w v := .notified .publish (.project serving)
  have ended : ∀ x ∈ v.projects.subscribers, x.1 ≠ 1 := by
    intro x hx
    have number : x.1 ∈ t.projects.subscribers.map Prod.fst := List.mem_map_of_mem hx
    rw [numbers] at number
    rintro same
    simp [same] at number
  obtain ⟨workbenches, sessions⟩ := subscriptions_owned []
  obtain ⟨tallied, silent, orderly⟩ :=
    (workbenches w (Workbench.Reachable.start.takeAll taken).conducted).2 1 _ v observed
  obtain ⟨a, selectors, label⟩ := List.map_eq_singleton_iff.1 labels
  obtain ⟨called, numbers⟩ := Prod.mk.inj label
  obtain ⟨number, stackNumber⟩ := Prod.mk.inj numbers
  have alone : v.selectors = [a] := selectors
  have leaves := orderly.detachSelector "t"
  simp only [alone, List.filter_cons, List.filter_nil, called, beq_self_eq_true, bne_self_eq_false,
    if_true, Bool.false_eq_true, if_false, List.map_singleton, number, stackNumber] at leaves
  refine ⟨w, v, taken, observed, ?_, tallied.projects,
    silent.projects _ _ 1 (.field .git) rfl ended, leaves, ?_⟩
  · rw [alone, List.map_singleton, number]
    exact Prod.ext attached (Prod.ext left rfl)
  · exact (sessions Unit _).2.2.trans (by decide)

end ProjectPicker
