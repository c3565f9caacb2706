import ProjectPicker.Proofs.Selector
import ProjectPicker.Proofs.Session.Runs
import ProjectPicker.Proofs.Views

/-!
# The views of a session show what the board holds

* `Session.InStep` : the fields show the locations of the board, the selector holds the selection of
  the board, and its check boxes are consistent with it;
* `stable_inStep` : whatever is done with a session keeps its views in step;
* `views_in_step` : they are in step after every run.
-/

set_option autoImplicit false

namespace ProjectPicker.Session

variable {ε : Type} {s : Session}

/-- The views show what the board holds. -/
structure InStep (s : Session) : Prop where
  git : s.git.location = s.board.gitLocation
  zip : s.zip.location = s.board.zipLocation
  skip : s.zip.skip = s.board.zipSkip
  selected : s.selector.selected = s.board.chosen
  consistent : s.selector.Consistent

namespace InStep

theorem start (stackList : List Stack) : InStep (start stackList) :=
  ⟨rfl, rfl, rfl, rfl, Selector.consistent_attach { stackList }⟩

/-- The catalogue and the active stack change what is listed, and nothing else that is shown. -/
theorem load (h : InStep s) (catalogue : List Template) :
    InStep { s with
      board := { s.board with catalogue }
      selector := s.selector.fetched { s.board with catalogue } } :=
  ⟨h.git, h.zip, h.skip, h.selected, h.consistent.fetched _⟩

theorem activate (h : InStep s) (id : Option String) : InStep (s.activate id) := by
  have selected : (s.selector.stackChanged { s.board with activeStack := id }).selected =
      s.selector.selected := by
    unfold Selector.stackChanged
    split <;> rfl
  exact ⟨h.git, h.zip, h.skip, selected.trans h.selected, h.consistent.stackChanged _⟩

theorem typeGit (h : InStep s) (location : String) : InStep (s.typeGit location) :=
  ⟨rfl, h.zip, h.skip, h.selected, h.consistent⟩

theorem typeZip (h : InStep s) (location : String) (skip : Bool) :
    InStep (s.typeZip location skip) :=
  ⟨h.git, rfl, rfl, h.selected, h.consistent⟩

theorem toggle (h : InStep s) (name : String) (checked : Bool) :
    InStep (s.toggle name checked) :=
  ⟨h.git, h.zip, h.skip, rfl, h.consistent.click name checked s.board⟩

theorem react (h : InStep s) (name : String) (who : Subscriber) : InStep (s.react name who) := by
  cases who with
  | git =>
    rw [react_git, GitField.clear_fst, GitField.clear_snd]
    refine ⟨?_, h.zip, h.skip, h.selected, h.consistent⟩
    dsimp only
    split
    · rfl
    · exact h.git
  | zip =>
    rw [react_zip, ZipField.clear_fst, ZipField.clear_snd]
    refine ⟨h.git, ?_, ?_, h.selected, h.consistent⟩
    · dsimp only
      split
      · rfl
      · exact h.zip
    · dsimp only
      split
      · rfl
      · exact h.skip
  | selector =>
    rw [react_selector, Selector.added_snd]
    refine ⟨h.git, h.zip, h.skip, ?_, h.consistent.added name s.board⟩
    rw [Selector.added_selected, h.selected]
  | listener _ => exact h

theorem hear (h : InStep s) (name : String) (who : Nat × Subscriber) : InStep (hear name s who) :=
  react (s := s.note who.2 name) ⟨h.git, h.zip, h.skip, h.selected, h.consistent⟩ name who.2

theorem announce (h : InStep s) (name : String) (idle : s.channel.running = []) :
    InStep (s.announce name).2 := by
  rw [announce_eq idle]
  generalize s.channel.subscribers = queue
  induction queue generalizing s with
  | nil => exact h
  | cons who rest ih => exact ih (h.hear name who) (by rw [hear_channel, idle])

end InStep

/-- Whatever is done with a session keeps its wiring, and its views in step. -/
theorem stable_inStep : Stable fun s => Wired s.channel ∧ InStep s where
  load _ catalogue h := ⟨h.1, h.2.load catalogue⟩
  activate _ id h := ⟨h.1, h.2.activate id⟩
  typeGit _ location h := ⟨h.1, h.2.typeGit location⟩
  typeZip _ location skip h := ⟨h.1, h.2.typeZip location skip⟩
  toggle _ name checked h := ⟨h.1, h.2.toggle name checked⟩
  ready _ _ _ h := ⟨h.1, h.2.git, h.2.zip, h.2.skip, h.2.selected, h.2.consistent⟩
  announce _ name h := ⟨announce_channel h.1.idle ▸ h.1, h.2.announce name h.1.idle⟩
  listen _ name h := ⟨h.1.listen name, h.2.git, h.2.zip, h.2.skip, h.2.selected, h.2.consistent⟩
  unlisten _ name h :=
    ⟨h.1.unlisten name, h.2.git, h.2.zip, h.2.skip, h.2.selected, h.2.consistent⟩

theorem run_inStep (stackList : List Stack) (ops : List (Operation ε)) :
    Wired ((start stackList).run ops).channel ∧ InStep ((start stackList).run ops) :=
  stable_inStep.run ops ⟨Wired.start stackList, InStep.start stackList⟩

/-- After every run the fields show what the board holds, the selector and the board hold the same
selection, there is a box for each listed name and for no other, each once, and the box of a
listed template is checked exactly if a template of its name is selected. -/
theorem views_in_step (stackList : List Stack) (ops : List (Operation ε)) :
    let s := (start stackList).run ops
    s.git.location = s.board.gitLocation ∧
      (s.zip.location, s.zip.skip) = (s.board.zipLocation, s.board.zipSkip) ∧
      s.selector.selected = s.board.chosen ∧
      s.selector.checks.keys = (Template.names s.selector.listed).eraseDups ∧
      ∀ t ∈ s.selector.listed, s.selector.isChecked t.name = true ↔
        ∃ u ∈ s.selector.selected, u.name = t.name := by
  intro s
  obtain ⟨-, h⟩ := run_inStep stackList ops
  refine ⟨h.git, Prod.ext h.zip h.skip, h.selected, h.consistent.keys, fun t ht => ?_⟩
  rw [h.consistent.checked, ReadyList.mem_names, ReadyList.mem_names]
  exact and_iff_right ⟨t, ht, rfl⟩

end ProjectPicker.Session
