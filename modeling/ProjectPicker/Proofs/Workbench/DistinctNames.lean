import ProjectPicker.Proofs.Board
import ProjectPicker.Proofs.Workbench.Stable

/-!
# The ready list of a workbench

* `changes_takeQuiet`, `stable_changes` : whatever happens on a workbench, its ready list undergoes
  granted changes and no others;
* `take_remove`, `take_update`, `take_save`, `take_add` : what the four operations do to it;
* `Workbench.Unheeded` : listeners hear of added projects and do nothing about it;
* `ready_distinct` : names are distinct at any time, also while listeners are served.
-/

set_option autoImplicit false

namespace ProjectPicker.Workbench

variable {ready : List Template} {w w' v : Workbench} {depth : Nat} {step : Step}
  {stackList : List Stack} {outcome : Outcome}

/-! ## Changes of the ready list -/

theorem attempt_board {α : Type} (a : Attempt Refusal Board α) (answer : α → Answer)
    (w : Workbench) : (attempt a answer w).2.board = a.after w.board := by
  simp only [attempt, Attempt.after]
  cases a.run w.board <;> rfl

theorem changes_takeEditor (id : String) (action : EditorAction) (w : Workbench)
    (h : ReadyList.Changes ready w.board.ready) :
    ReadyList.Changes ready (takeEditor id action w).2.board.ready := by
  unfold takeEditor
  split
  · exact h
  · next e _ =>
    split
    · exact h
    · exact h
    · exact h
    · exact h
    · split
      · next e' b' hs =>
        obtain ⟨-, -, new, hr, rfl⟩ := Editor.save_eq_ok hs
        exact h.tail (.replace hr)
      · next r e' b' hs =>
        cases Editor.atomic_save _ _ _ hs
        exact h

theorem changes_takeQuiet (action : QuietAction) (w : Workbench)
    (h : ReadyList.Changes ready w.board.ready) :
    ReadyList.Changes ready (takeQuiet action w).2.board.ready := by
  cases action with
  | update old t =>
    rw [takeQuiet, attempt_board]
    exact Board.keeps_changes (Board.atomic_update old t) (fun _ _ _ => Board.change_of_update)
      ready w.board h
  | remove name =>
    rw [takeQuiet, attempt_board]
    exact Board.keeps_changes (Board.atomic_remove name) (fun _ _ _ => Board.change_of_remove)
      ready w.board h
  | editor id action => exact changes_takeEditor id action w h
  | fetch supply =>
    simp only [takeQuiet]
    split
    · next u hu => exact (fetch_ready hu).symm ▸ h
    · exact h
  | unsubscribe name => simpa [takeQuiet] using h
  | attachGit id => simpa [takeQuiet] using h
  | detachGit id => simpa [takeQuiet] using h
  | git id action => simpa [takeQuiet] using h
  | attachZip id => simpa [takeQuiet] using h
  | detachZip id => simpa [takeQuiet] using h
  | zip id action => simpa [takeQuiet] using h
  | attachSelector id => simpa [takeQuiet] using h
  | detachSelector id => simpa [takeQuiet] using h
  | selector id action => simpa [takeQuiet] using h
  | openEditor id target =>
    cases target with
    | template t => simpa [takeQuiet] using h
    | ready name =>
      simp only [takeQuiet]
      split
      · simpa using h
      · exact h
  | _ => exact h

theorem stable_changes (ready : List Template) :
    Stable fun w => ReadyList.Changes ready w.board.ready where
  quiet := changes_takeQuiet
  subscribe topic l w h := by simpa using h
  record _ _ h := h
  activate _ _ h := h
  takeIn source w h :=
    Board.keeps_changes (Board.atomic_takeIn source) (fun _ _ _ => Board.change_of_takeIn) ready
      w.board h
  enterProject _ _ h := h
  leaveProject _ _ h := h
  enterStack _ _ h := h
  leaveStack _ _ h := h
  fieldHears kind name id w w' hw h := (actOnField_ready (kind.clear_ready name) hw).symm ▸ h
  selectorHears name id w w' hw h :=
    (actOnSelector_ready (fun s b => s.added_ready b name) hw).symm ▸ h
  selectorFollows id w w' hw h := (actOnSelector_ready (fun _ _ => rfl) hw).symm ▸ h

theorem Observed.changes (h : Observed depth step w v) :
    ReadyList.Changes w.board.ready v.board.ready :=
  (stable_changes _).observed .refl h

theorem Reachable.distinct (h : Reachable stackList w) : ReadyList.Distinct w.board.ready :=
  ReadyList.distinct_nil.changes ((stable_changes []).reachable .refl h)

/-! ## The four operations -/

theorem take_quiet (action : QuietAction) :
    take depth (.act (.quiet action)) w = some (takeQuiet action w) := by
  rw [take_eq]
  rfl

theorem take_remove {name : String} {t : Template}
    (h : take depth (.act (.quiet (.remove name))) w = some (.ok (.template (some t)), w')) :
    ReadyList.Removed name t w.board.ready w'.board.ready := by
  rw [take_quiet, takeQuiet, attempt] at h
  split at h
  · next u b hr =>
    cases h
    obtain ⟨new, hn, rfl⟩ := Board.remove_eq_ok hr
    exact ReadyList.remove_eq_ok hn
  · cases h

theorem take_update {old : String} {t : Template}
    (h : take depth (.act (.quiet (.update old t))) w = some (.ok .done, w')) :
    ReadyList.Replaced old t w.board.ready w'.board.ready := by
  rw [take_quiet, takeQuiet, attempt] at h
  split at h
  · next u b hr =>
    cases h
    obtain ⟨new, hn, rfl⟩ := Board.update_eq_ok hr
    exact (ReadyList.replace_eq_ok hn).2
  · cases h

theorem take_save {id : String} {e : Editor} (he : w.editors.lookup id = some e)
    (h : take depth (.act (.quiet (.editor id .save))) w = some (.ok .done, w')) :
    ReadyList.Replaced e.knownAs e.draft w.board.ready w'.board.ready := by
  rw [take_quiet, takeQuiet, takeEditor, he] at h
  dsimp only at h
  split at h
  · next e' b' hs =>
    cases h
    obtain ⟨-, -, new, hr, rfl⟩ := Editor.save_eq_ok hs
    exact (ReadyList.replace_eq_ok hr).2
  · cases h

theorem take_add {source : Source} {names : List String}
    (h : take depth (.act (.add source)) w = some (.ok (.names names), w')) :
    ∃ batch, w.board.candidates source = .ok batch ∧ Template.names batch = names ∧
      announceAll (reactions depth) names
        { w with board := { w.board with ready := w.board.ready ++ batch } } = some w' := by
  rw [take_eq, perform, add] at h
  split at h
  · cases h
  · next given b hr =>
    obtain ⟨u, hu, h⟩ := Option.bind_eq_some_iff.1 h
    cases h
    obtain ⟨batch, hc, hn, -, rfl⟩ := Board.takeIn_eq_ok hr
    exact ⟨batch, hc, hn, hu⟩

/-! ## Imports that nobody reacts to -/

/-- No listener for added projects takes any steps. -/
def Unheeded (w : Workbench) : Prop :=
  ∀ id l, (id, .listener l) ∈ w.projects.subscribers → ∀ payload, l.reactions payload = []

/-- The same projects are ready, and the same subscribers hear of added ones. -/
structure SameReady (w w' : Workbench) : Prop where
  projects : w'.projects = w.projects
  ready : w'.board.ready = w.board.ready

section Nested

variable {nested : Step → Workbench → Option (Outcome × Workbench)} {name : String}

/-- Views, and listeners that take no steps, change neither. -/
theorem serveProject_quiet {id : Nat} {who : ProjectSubscriber}
    (quiet : ∀ l, who = .listener l → l.reactions name = [])
    (h : serveProject nested name id who w = some w') : SameReady w w' := by
  cases who with
  | field kind =>
    cases h
    exact getD_of
      (fun u hu => ⟨actOnField_projects hu, actOnField_ready (kind.clear_ready name) hu⟩) ⟨rfl, rfl⟩
  | selector =>
    cases h
    refine getD_of
      (fun u hu => ⟨actOnSelector_projects hu, actOnSelector_ready (fun s b => ?_) hu⟩) ⟨rfl, rfl⟩
    exact s.added_ready b name
  | listener l =>
    rw [serveProject, Listener.hear, quiet l rfl] at h
    cases h
    exact ⟨rfl, rfl⟩

theorem announce_unheeded {served : Nat} (h : announce nested name w = some (served, w'))
    (hu : Unheeded w) : Unheeded w' ∧ w'.board.ready = w.board.ready := by
  have serving : ∀ id x s s', (id, x) ∈ w.projects.subscribers →
      serveProject nested name id x s = some s' → Unheeded s ∧ s.board.ready = w.board.ready →
      Unheeded s' ∧ s'.board.ready = w.board.ready := by
    intro id x s s' hm hs ⟨quiet, ready⟩
    have same := serveProject_quiet (fun l hl => hu id l (hl ▸ hm) name) hs
    exact ⟨fun id l hl => quiet id l (same.projects ▸ hl), same.ready.trans ready⟩
  exact projectSlot.keeps_deliver (fun _ _ h => h) (fun _ _ h => h) serving ⟨hu, rfl⟩ h

theorem announceAll_unheeded {names : List String} (h : announceAll nested names w = some w')
    (hu : Unheeded w) : w'.board.ready = w.board.ready := by
  induction names generalizing w with
  | nil =>
    cases h
    rfl
  | cons name rest ih =>
    obtain ⟨⟨served, u⟩, ha, h⟩ := Option.bind_eq_some_iff.1 h
    obtain ⟨hu', hr⟩ := announce_unheeded ha hu
    rw [ih h hu', hr]

end Nested

/-! ## Distinct names at any time -/

/-- No two projects of the ready list share a name, after any steps, and in the course of a step
whenever someone is notified and after each step that a listener takes. A removal and a replacement
leave the other entries and their order alone, and an import appends its batch before anyone hears
of it. -/
theorem ready_distinct (stackList : List Stack) :
    (∀ w, Reachable stackList w → ReadyList.Distinct w.board.ready ∧
      ∀ depth step v, Observed depth step w v → ReadyList.Distinct v.board.ready) ∧
    ∀ depth w w',
      (∀ name t, take depth (.act (.quiet (.remove name))) w = some (.ok (.template (some t)), w') →
        ReadyList.Removed name t w.board.ready w'.board.ready) ∧
      (∀ old t, take depth (.act (.quiet (.update old t))) w = some (.ok .done, w') →
        ReadyList.Replaced old t w.board.ready w'.board.ready) ∧
      (∀ id e, w.editors.lookup id = some e →
        take depth (.act (.quiet (.editor id .save))) w = some (.ok .done, w') →
        ReadyList.Replaced e.knownAs e.draft w.board.ready w'.board.ready) ∧
      (∀ source names, take depth (.act (.add source)) w = some (.ok (.names names), w') →
        ∃ batch, w.board.candidates source = .ok batch ∧ Template.names batch = names ∧
          announceAll (reactions depth) names
            { w with board := { w.board with ready := w.board.ready ++ batch } } = some w' ∧
          (Unheeded w → w'.board.ready = w.board.ready ++ batch)) := by
  refine ⟨fun w hw => ⟨hw.distinct, fun depth step v hv => hw.distinct.changes hv.changes⟩,
    fun depth w w' => ⟨fun name t => take_remove, fun old t => take_update,
      fun id e => take_save, fun source names h => ?_⟩⟩
  obtain ⟨batch, hc, hn, ha⟩ := take_add h
  exact ⟨batch, hc, hn, ha, fun hu => announceAll_unheeded ha hu⟩

/-- A workbench with two projects, an editor on one of them, a Git field and a chosen template. -/
def underway : Workbench where
  board := { ready := [{ name := "a" }, { name := "b" }], chosen := [{ name := "c" }] }
  projects := Channel.empty.subscribe (.field .git)
  gitFields := [⟨"git", 0, ⟨""⟩⟩]
  editors := [("editor", ⟨{ name := "b" }, "b"⟩)]

theorem reachable_underway : Reachable [] underway := by
  have run : takeAll 0
      [.act (.quiet (.attachGit "git")), .act (.quiet (.choose [{ name := "a" }, { name := "b" }])),
        .act (.add .templates), .act (.quiet (.openEditor "editor" (.ready "b"))),
        .act (.quiet (.choose [{ name := "c" }]))] (start []) = some underway := rfl
  exact Reachable.start.takeAll run

theorem ready_distinct_underway :
    let w := underway
    ReadyList.Distinct w.board.ready ∧
      (∃ v, Observed 0 (.act (.add .templates)) w v ∧ ReadyList.Distinct v.board.ready) ∧
      (∃ w', take 0 (.act (.quiet (.remove "a"))) w =
          some (.ok (.template (some { name := "a" })), w') ∧
        ReadyList.Removed "a" { name := "a" } w.board.ready w'.board.ready) ∧
      (∃ w', take 0 (.act (.quiet (.update "a" { name := "d" }))) w = some (.ok .done, w') ∧
        ReadyList.Replaced "a" { name := "d" } w.board.ready w'.board.ready) ∧
      (∃ w', take 0 (.act (.quiet (.editor "editor" .save))) w = some (.ok .done, w') ∧
        ReadyList.Replaced "b" { name := "b" } w.board.ready w'.board.ready) ∧
      ∃ w', take 0 (.act (.add .templates)) w = some (.ok (.names ["c"]), w') ∧
        w'.board.ready = w.board.ready ++ [{ name := "c" }] := by
  intro w
  obtain ⟨always, each⟩ := ready_distinct []
  obtain ⟨distinct, meanwhile⟩ := always w reachable_underway
  have notified : Observed 0 (.act (.add .templates)) w _ :=
    .notified (@Publishes.add _ _ _ _ [] [] "c" _ rfl rfl) (.project (.now rfl))
  have removed := (each 0 w _).1 "a" { name := "a" } rfl
  have updated := (each 0 w _).2.1 "a" { name := "d" } rfl
  have saved := (each 0 w _).2.2.1 "editor" ⟨{ name := "b" }, "b"⟩ rfl rfl
  obtain ⟨batch, hb, -, -, appends⟩ := (each 0 w _).2.2.2 .templates ["c"] rfl
  have unheeded : Unheeded w := by
    intro id l hl
    simp [w, underway, Channel.subscribe, Channel.empty] at hl
  refine ⟨distinct, ⟨_, notified, meanwhile _ _ _ notified⟩, ⟨_, rfl, removed⟩,
    ⟨_, rfl, updated⟩, ⟨_, rfl, saved⟩, ⟨_, rfl, ?_⟩⟩
  cases hb
  exact appends unheeded

end ProjectPicker.Workbench
