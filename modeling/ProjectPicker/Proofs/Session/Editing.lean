import ProjectPicker.Proofs.Editor
import ProjectPicker.Proofs.Names
import ProjectPicker.Proofs.Session.Listing

/-!
# Projects can be edited

* `Supplied` : all templates that can get selected are named, as they come from a registry;
* `Editable` : the projects of the ready list are named, unless they were imported from a location
  whose project has a blank name;
* `supplied_editable_run` : both are true after every run;
* `edit_named`, `save_valid`, `save_invalid` : an editor is opened on each named project, and saves
  it unchanged if it may be called so;
* `ready_editable` : so that is what editing comes to after every run.
-/

set_option autoImplicit false

namespace ProjectPicker.Session

open Catalogue (Fetched)

variable {s s' : Session} {op : Operation CatalogueError} {t : Template} {b : Board}

/-! ## What can be selected -/

/-- All templates that are selected, or can get selected, have names. -/
structure Supplied (s : Session) : Prop where
  catalogue : ∀ t ∈ s.board.catalogue, t.Named
  all : ∀ t ∈ s.selector.all, t.Named
  listed : ∀ t ∈ s.selector.listed, t.Named
  chosen : ∀ t ∈ s.board.chosen, t.Named

namespace Supplied

theorem start (stackList : List Stack) : Supplied (start stackList) := by
  refine ⟨?_, ?_, ?_, ?_⟩
  all_goals
    intros
    contradiction

theorem announce (wired : Wired s.channel) (inStep : InStep s) (h : Supplied s) (name : String) :
    Supplied (s.announce name).2 := by
  have same := sameListing_announce wired name
  refine ⟨?_, ?_, ?_, ?_⟩
  · rw [announced wired]
    exact h.catalogue
  · rw [same.all]
    exact h.all
  · rw [same.listed]
    exact h.listed
  · rw [announce_chosen wired inStep]
    exact fun t ht => h.chosen t (List.mem_filter.1 ht).1

theorem filter {u : Selector} (all : ∀ t ∈ u.all, t.Named) (listed : ∀ t ∈ u.listed, t.Named) :
    ∀ t ∈ u.filter.listed, t.Named := by
  intro t ht
  rw [Selector.filter] at ht
  dsimp only at ht
  split at ht
  · exact listed t ht
  · exact all t (List.mem_filter.1 ht).1

theorem load (h : Supplied s) {catalogue : List Template} (named : ∀ t ∈ catalogue, t.Named) :
    Supplied { s with
      board := { s.board with catalogue }
      selector := s.selector.fetched { s.board with catalogue } } := by
  have sorted : ∀ t ∈ Template.sort catalogue, t.Named :=
    fun t ht => named t (List.mem_mergeSort.1 ht)
  exact ⟨named, sorted, filter sorted h.listed, h.chosen⟩

theorem activate (h : Supplied s) (id : Option String) : Supplied (s.activate id) := by
  refine ⟨h.catalogue, ?_, ?_, h.chosen⟩
  · rw [Session.activate, Selector.stackChanged]
    split <;> exact h.all
  · rw [Session.activate, Selector.stackChanged]
    split
    · exact h.listed
    · exact filter h.all h.listed

theorem effect (wired : Wired s.channel) (inStep : InStep s) (h : Supplied s)
    (fetched : ∀ f, op = .load f → Fetched f) (effect : Effect s op s') :
    Supplied s' := by
  cases effect with
  | refused => exact h
  | load => exact h.load ((fetched _ rfl).named rfl)
  | selectStack => exact h.activate _
  | typeGit => exact ⟨h.catalogue, h.all, h.listed, h.chosen⟩
  | typeZip => exact ⟨h.catalogue, h.all, h.listed, h.chosen⟩
  | toggle =>
    refine ⟨h.catalogue, h.all, h.listed, fun t ht => h.listed t ?_⟩
    exact (List.mem_filter.1 ht).1
  | @add _ batch =>
    refine announceAll_keeps (s := s.appended batch) wired (inStep.appended batch) ?_
      ⟨h.catalogue, h.all, h.listed, h.chosen⟩
    exact fun s name wired inStep h => h.announce wired inStep name
  | write => exact ⟨h.catalogue, h.all, h.listed, h.chosen⟩
  | publish => exact h.announce wired inStep _
  | listen => exact ⟨h.catalogue, h.all, h.listed, h.chosen⟩
  | unlisten => exact ⟨h.catalogue, h.all, h.listed, h.chosen⟩

end Supplied

/-! ## What is ready -/

theorem named_of_candidates {source : Source} {batch : List Template}
    (chosen : ∀ t ∈ b.chosen, t.Named) (h : b.candidates source = .ok batch) :
    ∀ t ∈ batch, t.Named ∨ t.BlankImport := by
  by_cases given : source = .templates
  · subst given
    obtain ⟨-, rfl⟩ := Board.candidates_templates_eq_ok.1 h
    exact fun t ht => .inl (chosen t ht)
  · exact fun t ht => (Classical.em t.Named).imp_right fun blank =>
      ⟨blank, Board.imported_of_candidates h given t ht⟩

/-- The projects of a ready list are named, unless a location gave them blank names. -/
def Editable (ready : List Template) : Prop := ∀ t ∈ ready, t.Named ∨ t.BlankImport

theorem Editable.replace {ready new : List Template} {old : String} (h : Editable ready)
    (named : t.Named) (replaced : ReadyList.replace ready old t = .ok new) : Editable new := by
  obtain ⟨-, before, x, after, rfl, -, rfl⟩ := ReadyList.replace_eq_ok replaced
  intro u hu
  obtain hu | hu := List.mem_append.1 hu
  · exact h u (List.mem_append_left _ hu)
  · obtain rfl | hu := List.mem_cons.1 hu
    · exact .inl named
    · exact h u (List.mem_append_right _ (List.mem_cons_of_mem _ hu))

theorem Editable.effect (wired : Wired s.channel) (inStep : InStep s) (supplied : Supplied s)
    (h : Editable s.board.ready) (effect : Effect s op s') : Editable s'.board.ready := by
  cases effect with
  | @add _ batch offered fresh =>
    rw [announceAll_ready (s := s.appended batch) wired (inStep.appended batch)]
    have named := named_of_candidates supplied.chosen offered
    exact fun t ht => (List.mem_append.1 ht).elim (h t) (named t)
  | write writes replaced => exact h.replace (Template.named_of_valid writes.valid) replaced
  | publish =>
    rw [announce_ready wired]
    exact h
  | _ => exact h

theorem plain_load {fetched : Except CatalogueError (List Template)}
    (h : op.plain = .load fetched) : op = .load fetched := by
  cases op with
  | apply command => cases command <;> cases h
  | _ => exact h

/-- Whatever is done with a session, what can be selected is named, and so is what is ready. -/
theorem supplied_editable_run (stackList : List Stack) (ops : List (Operation CatalogueError))
    (fetched : ∀ f, .load f ∈ ops → Fetched f) :
    Supplied ((start stackList).run ops) ∧ Editable ((start stackList).run ops).board.ready := by
  induction ops using List.reverseRecOn with
  | nil => exact ⟨.start stackList, fun _ never => by cases never⟩
  | append_singleton before op ih =>
    obtain ⟨supplied, editable⟩ := ih fun f hf => fetched f (List.mem_append_left _ hf)
    obtain ⟨wired, inStep⟩ := run_inStep stackList before
    have effect := operate_effect ((start stackList).run before) op
    rw [run_concat]
    refine ⟨supplied.effect wired inStep (fun f hf => fetched f ?_) effect,
      editable.effect wired inStep supplied effect⟩
    rw [plain_load hf]
    exact List.mem_append_right _ (List.mem_singleton.2 rfl)

/-! ## Editing -/

/-- The name of a project leads to that project. -/
theorem edit_mem (distinct : ReadyList.Distinct s.board.ready) (ht : t ∈ s.board.ready) :
    (edit t.name).run s = (Attempt.ofExcept (Editor.openOn t)).run s := by
  simp only [edit, EStateM.run_bind, EStateM.run_get, ReadyList.find?_of_mem distinct ht]

theorem edit_named (distinct : ReadyList.Distinct s.board.ready) (ht : t ∈ s.board.ready)
    (named : t.Named) : (edit t.name).run s = .ok ⟨t, t.name⟩ s := by
  rw [edit_mem distinct ht, Editor.openOn, if_neg (Bool.eq_false_iff.1 named),
    Attempt.run_ofExcept_ok]

theorem edit_blank (distinct : ReadyList.Distinct s.board.ready) (ht : t ∈ s.board.ready)
    (blank : Text.isBlankText t.name = true) :
    (edit t.name).run s = .error .missingTemplateName s := by
  rw [edit_mem distinct ht, Editor.openOn, if_pos blank, Attempt.run_ofExcept_error]

theorem save_valid (distinct : ReadyList.Distinct s.board.ready) (ht : t ∈ s.board.ready)
    (valid : ProjectName.isValid t.name = true) :
    save.run (⟨t, t.name⟩, s) =
      .ok () (⟨t, t.name⟩, { s with board := { s.board with edited := some t } }) := by
  rw [save, Attempt.run_within, Editor.save_self distinct ht valid]

theorem save_invalid (invalid : ProjectName.isValid t.name = false) :
    save.run (⟨t, t.name⟩, s) = .error (.invalidProjectName t.name) (⟨t, t.name⟩, s) := by
  simp only [save, Editor.save, Attempt.run_within, EStateM.run_bind, EStateM.run_get, invalid,
    Attempt.run_require_false]

/-- After every run whose catalogues were fetched from files or web servers, an editor is opened on
each project of the ready list by its name, unless it was imported from a location whose project has
a blank name. If it is saved as it is, that is granted exactly if the project may be called so, and
nothing becomes of the ready list. -/
theorem ready_editable (stackList : List Stack) (ops : List (Operation CatalogueError))
    (fetched : ∀ f, .load f ∈ ops → Fetched f) :
    let s := (start stackList).run ops
    ∀ p ∈ s.board.ready, ¬ p.BlankImport →
      (edit p.name).run s = .ok ⟨p, p.name⟩ s ∧
        (ProjectName.isValid p.name = true → ∃ s',
          save.run (⟨p, p.name⟩, s) = .ok () (⟨p, p.name⟩, s') ∧
            s'.board.ready = s.board.ready) ∧
        (ProjectName.isValid p.name = false →
          save.run (⟨p, p.name⟩, s) = .error (.invalidProjectName p.name) (⟨p, p.name⟩, s)) := by
  intro s p hp told
  have distinct := distinct_run stackList ops
  obtain ⟨-, editable⟩ := supplied_editable_run stackList ops fetched
  have named : p.Named := (editable p hp).resolve_right told
  exact ⟨edit_named distinct hp named,
    fun valid => ⟨_, save_valid distinct hp valid, rfl⟩, save_invalid⟩

def singleCatalogue : List UInt8 := "[{name: a, tags: [x]}]".toUTF8.toList

/-- A template is imported from a catalogue, and a repository whose name holds a blank. -/
def mixedImports : List (Operation CatalogueError) :=
  [.load (Catalogue.ofFile "catalogue" (.ok singleCatalogue)), .selectStack (some "s"),
    .toggle "a" true, .add .templates, .typeGit "https://host/my repo.git", .add .git]

/-- Both can be edited, and the template can be saved as it is. -/
theorem ready_editable_mixed :
    let s := (start [⟨"s", "", ["x"]⟩]).run mixedImports
    Template.names s.board.ready = ["a", "my repo"] ∧
      (∃ p ∈ s.board.ready, p.name = "a" ∧ (edit p.name).run s = .ok ⟨p, p.name⟩ s ∧
        ∃ s', save.run (⟨p, p.name⟩, s) = .ok () (⟨p, p.name⟩, s') ∧
          s'.board.ready = s.board.ready) ∧
      ∃ p ∈ s.board.ready, p.name = "my repo" ∧ (edit p.name).run s = .ok ⟨p, p.name⟩ s ∧
        save.run (⟨p, p.name⟩, s) = .error (.invalidProjectName p.name) (⟨p, p.name⟩, s) := by
  intro s
  have fetched : ∀ f, .load f ∈ mixedImports → Fetched f := by
    intro f hf
    simp only [mixedImports, List.mem_cons, Operation.load.injEq, reduceCtorEq, List.not_mem_nil,
      or_false] at hf
    exact hf ▸ .file _ _
  have ready : s.board.ready = [{ name := "a", tags := ["x"] },
      Location.template "my repo" "git" "https://host/my repo.git" .empty] := by
    decide +kernel
  have general := ready_editable [⟨"s", "", ["x"]⟩] mixedImports fetched
  have a : ({ name := "a", tags := ["x"] } : Template) ∈ s.board.ready := by simp [ready]
  have repo : Location.template "my repo" "git" "https://host/my repo.git" .empty ∈
      s.board.ready := by simp [ready]
  obtain ⟨opened, saved, -⟩ := general _ a fun blank => blank.1 (by decide +kernel)
  obtain ⟨opened', -, refused⟩ := general _ repo fun blank => blank.1 (by decide +kernel)
  exact ⟨by rw [ready]; rfl, ⟨_, a, rfl, opened, saved (by decide +kernel)⟩,
    _, repo, rfl, opened', refused (by decide +kernel)⟩

def imported (location : String) : Session :=
  (start []).run [(.typeGit location : Operation CatalogueError), .add .git]

/-- A project with a blank in its name cannot be saved as it is, and one whose name is blank cannot
even be edited. -/
theorem ready_not_editable :
    (let s := imported "https://host/my repo.git"
      ∃ p ∈ s.board.ready, (edit p.name).run s = .ok ⟨p, p.name⟩ s ∧
        save.run (⟨p, p.name⟩, s) = .error (.invalidProjectName "my repo") (⟨p, p.name⟩, s)) ∧
      let s := imported "https://host/ .git"
      ∃ p ∈ s.board.ready, (edit p.name).run s = .error .missingTemplateName s := by
  have distinct (location : String) : ReadyList.Distinct (imported location).board.ready :=
    distinct_run [] _
  constructor
  · have ready : (imported "https://host/my repo.git").board.ready =
        [Location.template "my repo" "git" "https://host/my repo.git" .empty] := by
      decide +kernel
    have repo := ready.symm ▸ List.mem_singleton.2 rfl
    exact ⟨_, repo, edit_named (distinct _) repo (by decide +kernel),
      save_invalid (by decide +kernel)⟩
  · have ready : (imported "https://host/ .git").board.ready =
        [Location.template " " "git" "https://host/ .git" .empty] := by
      decide +kernel
    have repo := ready.symm ▸ List.mem_singleton.2 rfl
    exact ⟨_, repo, edit_blank (distinct _) repo (by decide +kernel)⟩

end ProjectPicker.Session
