import ProjectPicker.Proofs.Template
import ProjectPicker.Proofs.Workbench.Selectors

/-!
# Selectors go by the active stack

* `Workbench.tell` : a selector that is told that the stack changed is up to date;
* `deliver_upToDate` : while a queue is served, those selectors are up to date that are not in it
  any more, whatever listeners do in between;
* `keeps_activate` : so all are when everyone has been told;
* `keeps_perform`, `keeps_conducted` : no step leaves a selector behind, nor do any number of steps;
* `selectors_follow_stack` : whenever a step has been taken, and a stack is active, every selector
  goes by its tags and lists accordingly.
-/

set_option autoImplicit false

namespace ProjectPicker.Workbench

variable {nested : Step → Workbench → Option (Outcome × Workbench)} {w w' u : Workbench}
  {id n : Nat} {pending : List Nat} {queue : List (Nat × StackSubscriber)} {stackList : List Stack}

/-! ## Telling a selector -/

def tell (id : Nat) (w : Workbench) : Workbench :=
  (w.actOnSelector (·.stackSubscription == id) fun s b => (s.stackChanged b, b)).getD w

theorem tell_marked (id : Nat) (w : Workbench) :
    stackSlot.modify (·.leave id) (tell id (stackSlot.modify (·.enter id) w)) = tell id w := by
  have unmarked : (w.stackChanges.enter id).leave id = w.stackChanges := by
    simp [Channel.enter, Channel.leave]
  change stackSlot.modify _ (Option.getD (Option.map _ (actOn _ _ w.selectors w.board)) _)
    = Option.getD (Option.map _ (actOn _ _ w.selectors w.board)) _
  cases actOn (·.stackSubscription == id)
    (AttachedSelector.act fun s b => (s.stackChanged b, b)) w.selectors w.board with
  | none => exact stackSlot.leave_enter id w
  | some r =>
    simp only [Option.map_some, Option.getD_some]
    exact congrArg (fun stackChanges => { w with selectors := r.1, board := r.2, stackChanges })
      unmarked

theorem keeps_tell (id : Nat) (w : Workbench) : Keeps w (tell id w) := by
  refine getD_of (P := Keeps w) (fun u acted => ?_) (.refl w)
  exact keeps_actOnSelector (fun _ b => .refl b)
    (fun s b => .inr (Selector.follows_stackChanged b s)) (fun s b h => h.stackChanged b) acted

theorem upToDate_tell (wired : w.Wired) (h : w.UpToDate (id :: pending)) :
    (tell id w).UpToDate pending := by
  rw [tell]
  cases acted : w.actOnSelector (·.stackSubscription == id) fun s b => (s.stackChanged b, b) with
  | none =>
    refine h.skip fun taken => ?_
    obtain ⟨a, ha, same⟩ := List.mem_map.1 taken
    simpa [same] using actOnSelector_eq_none_iff.1 acted a ha
  | some u =>
    obtain ⟨before, a, after, split, others, here, rfl⟩ := actOnSelector_eq_some acted
    have number : a.stackSubscription = id := eq_of_beq here
    have distinct := wired.distinct
    rw [numbers, split, List.map_append, List.map_cons, List.nodup_append] at distinct
    have apart := (List.nodup_cons.1 distinct.2.1).1
    rw [UpToDate, split] at h
    intro x hx told
    obtain hx | hx := List.mem_append.1 hx
    · have other : x.stackSubscription ≠ id := by simpa using others x hx
      exact h x (List.mem_append_left _ hx) (List.not_mem_cons_of_ne_of_not_mem other told)
    · obtain rfl | hx := List.mem_cons.1 hx
      · exact Selector.follows_stackChanged w.board a.view
      · have other : x.stackSubscription ≠ id := by
          rintro rfl
          exact apart (number ▸ List.mem_map_of_mem hx)
        exact h x (List.mem_append_right _ (List.mem_cons_of_mem _ hx))
          (List.not_mem_cons_of_ne_of_not_mem other told)

/-! ## Announcing a change of the stack -/

/-- Serving a listener keeps a workbench as it should be if its steps do. -/
theorem kept_serve (wired : w.Wired) (foreign : w.Foreign id)
    (meanwhile : Keeps (stackSlot.modify (·.enter id) w) u) :
    Kept w (stackSlot.modify (·.leave id) u) := by
  have marked : (stackSlot.modify (·.enter id) w).Wired :=
    { wired with
      running := fun i hi => by
        obtain rfl | hi := List.mem_cons.1 hi
        · exact foreign
        · exact wired.running i hi }
  have kept := meanwhile marked
  have unmarked : u.stackChanges.running.erase id = w.stackChanges.running := by
    rw [kept.running]
    exact List.erase_cons_head ..
  refine ⟨{ kept.wired with running := fun i hi => ?_ }, kept.stackList, unmarked, kept.foreign,
    kept.upToDate, kept.narrowed⟩
  exact kept.wired.running i (List.mem_of_mem_erase hi)

section Nested

variable (hn : ∀ step w outcome w', nested step w = some (outcome, w') → Keeps w w')

include hn

theorem keeps_hear {l : Listener} {payload : String}
    (heard : l.hear nested record payload w = some w') : Keeps w w' :=
  Listener.keeps_hear (P := Keeps w)
    (fun entry v before => before.trans (keeps_record entry v))
    (fun _ _ _ _ taken before => before.trans (hn _ _ _ _ taken)) (.refl w) heard

/-- Once a queue has been served, all are up to date who were in it, and all who were before, though
listeners may have changed the stack in between, and any number of times. -/
theorem deliver_upToDate (wired : w.Wired)
    (listeners : ∀ i l, (i, .listener l) ∈ queue → w.Foreign i)
    (h : w.UpToDate (queue.map Prod.fst))
    (delivered : stackSlot.deliver (serveStack nested) queue w = some (n, w')) :
    Kept w w' ∧ w'.UpToDate [] := by
  induction queue generalizing w n with
  | nil =>
    cases delivered
    exact ⟨Keeps.refl _ wired, h⟩
  | cons who rest ih =>
    obtain ⟨id, who⟩ := who
    have rest_listeners := fun i l hl => listeners i l (List.mem_cons_of_mem _ hl)
    obtain ⟨running, later⟩ | ⟨-, t, k, served, later, -⟩ := Slot.deliver_cons_eq_some delivered
    · have foreign := wired.running id (List.contains_iff_mem.1 running)
      exact ih wired rest_listeners (h.skip foreign.2) later
    · cases who with
      | selector =>
        obtain rfl : tell id (stackSlot.modify (·.enter id) w) = t := Option.some.inj served
        rw [tell_marked] at later
        have told := keeps_tell id w wired
        obtain ⟨kept, all⟩ := ih told.wired (fun i l hl => told.foreign i (rest_listeners i l hl))
          (upToDate_tell wired h) later
        exact ⟨told.trans kept, all⟩
      | listener l =>
        have foreign := listeners id l List.mem_cons_self
        have turn := kept_serve wired foreign (keeps_hear hn served)
        obtain ⟨kept, all⟩ := ih turn.wired (fun i l hl => turn.foreign i (rest_listeners i l hl))
          ((turn.upToDate _ h).skip (turn.foreign id foreign).2) later
        exact ⟨turn.trans kept, all⟩

/-- When a stack is activated, all selectors are in the queue, so none is left behind. -/
theorem keeps_activate {stack : Option String} (h : activate nested stack w = some w') :
    Keeps w w' := by
  intro wired
  obtain ⟨⟨served, t⟩, published, h⟩ := Option.bind_eq_some_iff.1 h
  cases h
  let v := { w with board := { w.board with activeStack := stack } }
  have vwired : v.Wired := { wired with }
  have waiting : v.UpToDate (v.stackChanges.subscribers.map Prod.fst) := by
    intro a ha told
    have subscribed := wired.subscribed _ (List.mem_map_of_mem ha)
    exact absurd (List.mem_map_of_mem subscribed) told
  obtain ⟨kept, all⟩ := deliver_upToDate hn vwired wired.listeners waiting published
  exact ⟨kept.wired, kept.stackList, kept.running, kept.foreign,
    fun pending _ => all.mono (List.nil_subset _), kept.narrowed⟩

theorem keeps_serveProject {name : String} {who : ProjectSubscriber}
    (served : serveProject nested name id who w = some w') : Keeps w w' := by
  cases who with
  | field kind =>
    cases served
    refine getD_of (P := Keeps w) (fun u acted => ?_) (.refl w)
    exact keeps_actOnField (sameStack_clear kind name) acted
  | selector =>
    cases served
    refine getD_of (P := Keeps w) (fun u acted => keeps_actOnSelector (fun s b => ?_)
      (fun s b => .inl (Selector.added_stackTags s name b)) (fun s b h => h.added name b) acted)
      (.refl w)
    rw [Selector.added_snd]
    exact ⟨rfl, rfl⟩
  | listener l => exact keeps_hear hn served

theorem keeps_announce {name : String} (h : announce nested name w = some (n, w')) :
    Keeps w w' := by
  refine projectSlot.relates_deliver Keeps.refl (fun _ _ _ => Keeps.trans) ?_ h
  intro id who v t _ served
  have enter : Keeps v (projectSlot.modify (·.enter id) v) := keeps_elsewhere ⟨rfl, rfl⟩ rfl rfl rfl
  have leave : Keeps t (projectSlot.modify (·.leave id) t) := keeps_elsewhere ⟨rfl, rfl⟩ rfl rfl rfl
  exact (enter.trans (keeps_serveProject hn served)).trans leave

theorem keeps_announceAll {names : List String} (h : announceAll nested names w = some w') :
    Keeps w w' := by
  induction names generalizing w with
  | nil =>
    cases h
    exact .refl _
  | cons name rest ih =>
    obtain ⟨⟨served, u⟩, announced, h⟩ := Option.bind_eq_some_iff.1 h
    exact (keeps_announce hn announced).trans (ih h)

/-- No step leaves a selector behind if those of listeners do not. -/
theorem keeps_perform {step : Step} {outcome : Outcome}
    (h : perform nested step w = some (outcome, w')) : Keeps w w' := by
  cases step with
  | subscribe topic name on =>
    cases h
    exact keeps_subscribe w topic _
  | act action =>
    cases action with
    | publish name =>
      obtain ⟨⟨served, u⟩, announced, h⟩ := Option.bind_eq_some_iff.1 h
      cases h
      exact keeps_announce hn announced
    | selectStack stack =>
      obtain ⟨u, activated, h⟩ := Option.bind_eq_some_iff.1 h
      cases h
      exact keeps_activate hn activated
    | add source =>
      have taken : Keeps w { w with board := (Board.takeIn source).after w.board } :=
        keeps_elsewhere (sameStack_takeIn source w.board) rfl rfl rfl
      simp only [perform, add, Attempt.after] at h taken
      split at h
      · next r board hr =>
        cases h
        simpa only [hr] using taken
      · next names board hr =>
        obtain ⟨u, announced, h⟩ := Option.bind_eq_some_iff.1 h
        cases h
        simp only [hr] at taken
        exact taken.trans (keeps_announceAll hn announced)
    | quiet action =>
      obtain rfl := congrArg Prod.snd (Option.some.inj h)
      exact keeps_takeQuiet action w

end Nested

theorem keeps_conducted (h : Conducted w w') : Keeps w w' := by
  induction h with
  | refl w => exact .refl w
  | perform _ _ taken conduct earlier => exact earlier.trans (keeps_perform conduct taken)

/-! ## Whenever a step has been taken -/

/-- Whatever steps are taken, and whatever listeners do in the course of them, while they are
notified of added projects or of stack changes, and however often the stack is changed meanwhile:
once a step has been taken and a stack is active, every selector goes by the tags of that stack, and
if there are any, it lists those of its templates that carry one of them. -/
theorem selectors_follow_stack (stackList : List Stack) (w : Workbench)
    (h : Conducted (start stackList) w) (id : String) (active : w.board.activeStack = some id) :
    ∀ a ∈ w.selectors,
      a.view.stackTags = (match Stack.find? stackList id with
        | some stack => stack.tags.map Text.lower
        | none => []) ∧
      (a.view.stackTags ≠ [] →
        a.view.listed = a.view.all.filter fun t => t.Carries a.view.stackTags) := by
  intro a ha
  have none_yet : ∀ a ∈ (start stackList).selectors, False := fun _ never => by cases never
  have kept := keeps_conducted h (wired_start stackList)
  have tags := kept.upToDate [] (fun a ha => (none_yet a ha).elim) a ha List.not_mem_nil id active
  have listed := kept.narrowed (fun a ha => (none_yet a ha).elim) a ha
  rw [kept.stackList] at tags
  refine ⟨tags, fun tagged => ?_⟩
  simp only [← Template.hasTag_eq]
  exact listed tagged

/-- Two selectors, and between them a listener that activates another stack whenever one is
activated. -/
def contested : List Step :=
  [.act (.quiet (.attachSelector "first")),
    .subscribe .stackChanges "between" [("*", [.act (.selectStack (some "b"))])],
    .act (.quiet (.attachSelector "last")),
    .act (.quiet (.selector "last" (.fetch (some [{ name := "t", tags := ["Y"] }])))),
    .act (.selectStack (some "a"))]

/-- Both selectors go by the stack that the listener activates, the one that was told before it and
the one that hears of the first stack after it, and the one that has templates lists them. -/
theorem selectors_follow_stack_contested :
    let stackList : List Stack := [⟨"a", "A", ["x"]⟩, ⟨"b", "B", ["y"]⟩]
    ∃ w, takeAll 1 contested (start stackList) = some w ∧ w.board.activeStack = some "b" ∧
      w.selectors.map (fun a => (a.id, Template.names a.view.listed)) =
        [("first", []), ("last", ["t"])] ∧
      ∀ a ∈ w.selectors, a.view.stackTags = [Text.lower "y"] ∧
        a.view.listed = a.view.all.filter fun t => t.Carries [Text.lower "y"] := by
  intro stackList
  have run : (takeAll 1 contested (start stackList)).map (fun w => (w.board.activeStack,
      w.selectors.map fun a => (a.id, Template.names a.view.listed))) =
        some (some "b", [("first", []), ("last", ["t"])]) := by
    decide +kernel
  obtain ⟨w, taken, shown⟩ := Option.map_eq_some_iff.1 run
  obtain ⟨active, lists⟩ := Prod.mk.inj shown
  have conducted := (Reachable.start.takeAll taken).conducted
  refine ⟨w, taken, active, lists, fun a ha => ?_⟩
  obtain ⟨tags, listed⟩ := selectors_follow_stack stackList w conducted "b" active a ha
  have tagged : a.view.stackTags = [Text.lower "y"] := tags
  rw [tagged] at listed
  exact ⟨tagged, listed (List.cons_ne_nil _ _)⟩

end ProjectPicker.Workbench
