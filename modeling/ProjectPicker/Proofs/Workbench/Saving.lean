import ProjectPicker.Proofs.Editor
import ProjectPicker.Proofs.Workbench.DistinctNames

/-!
# Saving while any number of editors are open

* `lookup_putEditor` : an editor that is put under a name is found there, and the others are found
  where they were;
* `take_saving_eq_ok`, `take_saving_eq_error` : saving is what `Editor.save` does to the editor of
  that name and the board;
* `Saved`, `Unsaved` : what a granted and what a refused save make of a workbench;
* `saving_settled` : what saving comes to whenever someone does it, whatever was done before, to the
  same project by other editors, or to the ready list.
-/

set_option autoImplicit false

namespace ProjectPicker.Workbench

open Demands

variable {w w' : Workbench} {id : String} {e : Editor} {depth : Nat} {r : Refusal}

/-! ## Open editors -/

theorem lookup_filter_of_ne {i : String} (other : i ≠ id) (editors : List (String × Editor)) :
    (editors.filter (·.1 != id)).lookup i = editors.lookup i := by
  induction editors with
  | nil => rfl
  | cons entry rest ih =>
    obtain ⟨name, e⟩ := entry
    by_cases closed : name = id
    · have apart : (i == name) = false := beq_eq_false_iff_ne.2 (closed ▸ other)
      rw [List.filter_cons_of_neg (by simpa using closed), ih, List.lookup_cons, apart]
    · rw [List.filter_cons_of_pos (by simpa using closed), List.lookup_cons, List.lookup_cons, ih]

theorem lookup_putEditor (w : Workbench) (id : String) (e : Editor) (i : String) :
    (w.putEditor id e).editors.lookup i = if i = id then some e else w.editors.lookup i := by
  rw [putEditor, List.lookup_append]
  by_cases same : i = id
  · subst same
    have closed : (w.editors.filter (·.1 != i)).lookup i = none := by
      refine List.lookup_eq_none_iff.2 fun entry kept => ?_
      exact bne_iff_ne.2 (bne_iff_ne.1 (List.mem_filter.1 kept).2).symm
    rw [closed, if_pos rfl, List.lookup_cons, beq_self_eq_true]
    rfl
  · have apart : (i == id) = false := beq_eq_false_iff_ne.2 same
    rw [lookup_filter_of_ne same, if_neg same, List.lookup_cons, apart]
    exact Option.or_none

theorem putEditor_putEditor (w : Workbench) (id : String) (e e' : Editor) :
    (w.putEditor id e).putEditor id e' = w.putEditor id e' := by
  simp [putEditor, List.filter_filter]

/-! ## One save -/

def saving (id : String) : Step := .act (.quiet (.editor id .save))

theorem take_saving_eq_ok (he : w.editors.lookup id = some e) :
    take depth (saving id) w = some (.ok .done, w') ↔
      ∃ e' board, Editor.save.run (e, w.board) = .ok () (e', board) ∧
        w' = ({ w with board } : Workbench).putEditor id e' := by
  rw [saving, take_quiet, takeQuiet, takeEditor, he]
  dsimp only
  cases Editor.save.run (e, w.board) with
  | ok x s =>
    constructor
    · intro h
      cases h
      exact ⟨_, _, rfl, rfl⟩
    · rintro ⟨e', board, h, rfl⟩
      cases h
      rfl
  | error r s =>
    constructor
    · intro h
      cases h
    · rintro ⟨e', board, h, -⟩
      cases h

theorem take_saving_eq_error (he : w.editors.lookup id = some e) :
    take depth (saving id) w = some (.error (.refused r), w') ↔
      Editor.save.run (e, w.board) = .error r (e, w.board) ∧ w' = w.putEditor id e := by
  rw [saving, take_quiet, takeQuiet, takeEditor, he]
  dsimp only
  cases h : Editor.save.run (e, w.board) with
  | ok x s =>
    constructor
    · intro h
      cases h
    · rintro ⟨h, -⟩
      cases h
  | error r' s =>
    obtain rfl := Editor.atomic_save _ _ _ h
    constructor
    · intro h
      cases h
      exact ⟨rfl, rfl⟩
    · rintro ⟨h, rfl⟩
      cases h
      rfl

/-! ## What a save leaves behind -/

/-- A granted save has put the draft of `e` in the place of the one project that was known by the
name that `e` knows it by. -/
structure Saved (id : String) (e : Editor) (w w' : Workbench) : Prop where
  replaced : ∃ before x after, w.board.ready = before ++ x :: after ∧ x.name = e.knownAs ∧
    (∀ u ∈ before ++ after, u.name ≠ e.knownAs) ∧
    w' = { w with
      board := { w.board with ready := before ++ e.draft :: after, edited := some e.draft }
      editors := w'.editors }
  /-- From now on the project is known by the name of the draft, and the other editors know
  theirs by the same names as before. -/
  editors : ∀ i, w'.editors.lookup i =
    if i = id then some ⟨e.draft, e.draft.name⟩ else w.editors.lookup i
  known : e.draft.name ∈ Template.names w'.board.ready

/-- A refused save has changed nothing. -/
structure Unsaved (w w' : Workbench) : Prop where
  unchanged : w' = { w with editors := w'.editors }
  editors : ∀ i, w'.editors.lookup i = w.editors.lookup i

theorem saved_of_ok (distinct : ReadyList.Distinct w.board.ready)
    (he : w.editors.lookup id = some e) (h : take depth (saving id) w = some (.ok .done, w')) :
    Saved id e w w' := by
  obtain ⟨e', board, granted, rfl⟩ := (take_saving_eq_ok he).1 h
  obtain ⟨before, x, after, split, named, others, rfl, rfl⟩ :=
    Editor.save_eq_ok_sole distinct granted
  refine ⟨⟨before, x, after, split, named, others, rfl⟩, lookup_putEditor _ id _, ?_⟩
  exact ReadyList.mem_names.2 ⟨e.draft, List.mem_append_right _ List.mem_cons_self, rfl⟩

/-- What was just saved can be saved again at once, and nothing changes. -/
theorem saving_again (distinct : ReadyList.Distinct w.board.ready)
    (he : w.editors.lookup id = some e) (h : take depth (saving id) w = some (.ok .done, w')) :
    take depth (saving id) w' = some (.ok .done, w') := by
  obtain ⟨e', board, granted, rfl⟩ := (take_saving_eq_ok he).1 h
  have opened : (({ w with board } : Workbench).putEditor id e').editors.lookup id = some e' := by
    rw [lookup_putEditor, if_pos rfl]
  refine (take_saving_eq_ok opened).2 ⟨e', board, Editor.save_again distinct granted, ?_⟩
  exact (putEditor_putEditor { w with board } id e' e').symm

theorem unsaved_of_error (he : w.editors.lookup id = some e)
    (h : take depth (saving id) w = some (.error (.refused r), w')) : Unsaved w w' := by
  obtain ⟨-, rfl⟩ := (take_saving_eq_error he).1 h
  refine ⟨rfl, fun i => ?_⟩
  rw [lookup_putEditor]
  split
  · next same => rw [same, he]
  · rfl

/-! ## Any number of editors -/

theorem Poised.distinct {stackList : List Stack} (h : Poised stackList w) :
    ReadyList.Distinct w.board.ready :=
  ReadyList.distinct_nil.changes ((stable_changes []).poised .refl h)

/-- Whoever saves a draft, whenever that is, and whatever was done before, by other editors as by
anyone else: the save is granted exactly if the name of the draft is proper, nobody else has it, and
the ready list has a project of the name that the editor knows its project by. The first of these
that does not hold is the reason for the refusal, which changes nothing. If the save is granted, the
draft stands in the place of that one project and is the one edited last, the editor knows it by
the name of the draft, all else is as it was, and saving again at once is granted and changes
nothing. -/
theorem saving_settled (stackList : List Stack) (w : Workbench) (poised : Poised stackList w)
    (id : String) (e : Editor) (he : w.editors.lookup id = some e) (depth : Nat) :
    ((∃ w', take depth (saving id) w = some (.ok .done, w')) ↔ Met (e.demands w.board)) ∧
      (∀ r, (∃ w', take depth (saving id) w = some (.error (.refused r), w')) ↔
        FirstUnmet (e.demands w.board) r) ∧
      (∀ w', take depth (saving id) w = some (.ok .done, w') →
        Saved id e w w' ∧ take depth (saving id) w' = some (.ok .done, w')) ∧
      ∀ r w', take depth (saving id) w = some (.error (.refused r), w') → Unsaved w w' := by
  have asks := Editor.asks_save e w.board
  refine ⟨?_, fun r => ?_, fun w' granted => ?_, fun r w' => unsaved_of_error he⟩
  · rw [← asks.granted_unit_iff]
    constructor
    · rintro ⟨w', h⟩
      obtain ⟨e', board, granted, -⟩ := (take_saving_eq_ok he).1 h
      exact ⟨_, granted⟩
    · rintro ⟨⟨e', board⟩, granted⟩
      exact ⟨_, (take_saving_eq_ok he).2 ⟨e', board, granted, rfl⟩⟩
  · constructor
    · rintro ⟨w', h⟩
      obtain ⟨refused, -⟩ := (take_saving_eq_error he).1 h
      exact (asks.refused_iff.1 refused).1
    · intro unmet
      exact ⟨_, (take_saving_eq_error he).2 ⟨asks.refused r unmet, rfl⟩⟩
  · exact ⟨saved_of_ok poised.distinct he granted, saving_again poised.distinct he granted⟩

/-! ## Two editors on one project -/

def saver : Listener := ⟨"saver", [("a", [saving "second"])]⟩

/-- Two editors were opened on one project, and the first has given it another name. Another project
of the old name is about to be added, which the `saver` will hear. -/
def rivals : Workbench where
  board := {
    ready := [{ name := "c" }, { name := "b" }]
    chosen := [{ name := "a" }]
    edited := some { name := "c" } }
  projects := Channel.empty.subscribe (.listener saver)
  editors := [("second", ⟨{ name := "a", path := "/a" }, "a"⟩), ("first", ⟨{ name := "c" }, "c"⟩)]
  held := [("saver", .projects, 0)]

theorem reachable_rivals : Reachable [] rivals := by
  have run : takeAll 0
      [.act (.quiet (.choose [{ name := "a" }, { name := "b" }])), .act (.add .templates),
        .act (.quiet (.openEditor "second" (.ready "a"))),
        .act (.quiet (.editor "second" (.change { path := some "/a" }))),
        .act (.quiet (.openEditor "first" (.ready "a"))),
        .act (.quiet (.editor "first" (.change { name := some "c" }))), saving "first",
        .subscribe .projects saver.name saver.on,
        .act (.quiet (.choose [{ name := "a" }]))] (start []) = some rivals := rfl
  exact Reachable.start.takeAll run

/-- The other project has been added, and nobody has heard of it yet. -/
def joined : Workbench :=
  { rivals with board := { rivals.board with ready := rivals.board.ready ++ [{ name := "a" }] } }

/-- The `saver` has heard of it and begins to save. -/
def heard : Workbench := record (.heard "saver" "a") (projectSlot.modify (·.enter 0) joined)

theorem poised_heard : Poised [] heard := by
  have publishes : Publishes (take 0) (.act (.add .templates)) rivals (.project "a") joined :=
    @Publishes.add _ _ _ _ [] [] "a" _ rfl rfl
  have serving : projectSlot.Serving (serveProject (take 0) "a") joined.projects.subscribers joined
      (0, .listener saver) _ := .now rfl
  have taking : Listener.Taking (take 0) record saver.name (saver.reactions "a") heard
      (saving "second") heard := .now
  refine .during (fun _ w _ _ taken => ?_) (.between reachable_rivals.conducted) publishes
    (Publication.Notifies.project serving) taking
  exact (Conducted.refl w).take taken

/-- The second editor is refused while there is no project of the old name, and replaces the one
that has it next, although that is not the one that it was opened on. -/
theorem saving_settled_rivals :
    let e : Editor := ⟨{ name := "a", path := "/a" }, "a"⟩
    (∃ w', take 0 (saving "second") rivals = some (.error (.refused (.unknownProject "a")), w') ∧
      Unsaved rivals w') ∧
    ∃ w', take 0 (saving "second") heard = some (.ok .done, w') ∧
      w'.board.ready = [{ name := "c" }, { name := "b" }, { name := "a", path := "/a" }] ∧
      Saved "second" e heard w' ∧ take 0 (saving "second") w' = some (.ok .done, w') := by
  intro e
  have proper : ProjectName.Proper "a" := ProjectName.isValid_iff.1 (by decide)
  constructor
  · obtain ⟨-, refused_iff, -, unsaved⟩ :=
      saving_settled [] rivals (.between reachable_rivals.conducted) "second" e rfl 0
    have unmet : FirstUnmet (e.demands rivals.board) (.unknownProject "a") :=
      .later proper (.later (.inl rfl) (.here (by decide)))
    obtain ⟨w', refused⟩ := (refused_iff _).2 unmet
    exact ⟨w', refused, unsaved _ w' refused⟩
  · obtain ⟨-, -, saved, -⟩ := saving_settled [] heard poised_heard "second" e rfl 0
    obtain ⟨w', granted, ready⟩ : ∃ w', take 0 (saving "second") heard = some (.ok .done, w') ∧
        w'.board.ready = [{ name := "c" }, { name := "b" }, { name := "a", path := "/a" }] :=
      ⟨_, rfl, rfl⟩
    exact ⟨w', granted, ready, saved w' granted⟩

end ProjectPicker.Workbench
