import ProjectPicker.Proofs.Board
import ProjectPicker.Proofs.Demands
import ProjectPicker.Proofs.ProjectName

/-!
# What saving a draft asks for and does

* `Editor.demands` : the name of the draft is proper, nobody else has it, and the project is still
  known as the editor knows it. Saving asks for these, in this order (`asks_save`);
* `save_eq_ok_sole` : a granted save replaces the one project of that name;
* `save_self` : a project may be saved as it is, and stays as it is;
* `save_again` : so what was just saved can be saved again, and nothing changes.
-/

set_option autoImplicit false

namespace ProjectPicker

open Demands Attempt

/-- A replacement asks that nobody else has the new name, and that someone has the old one. -/
theorem Board.asks_update (old : String) (t : Template) (b : Board) :
    (update old t).Asks b
      [(t.name = old ∨ t.name ∉ Template.names b.ready, .duplicateProjectName t.name),
        (old ∈ Template.names b.ready, .unknownProject old)] := by
  refine asks_get (Asks.andSure ?_ fun _ => sure_set _)
  by_cases free : t.name = old ∨ t.name ∉ Template.names b.ready
  · refine Asks.first ?_ free _
    rw [ReadyList.replace, if_pos (ReadyList.isFree_iff_names.2 free)]
    by_cases known : old ∈ Template.names b.ready
    · refine Asks.first ?_ known _
      cases found : ReadyList.replaceFirst old t b.ready with
      | none => exact absurd known (ReadyList.replaceFirst_eq_none_iff.1 found)
      | some ready => exact asks_sure (sure_pure ready) b
    · rw [ReadyList.replaceFirst_eq_none_iff.2 known]
      exact asks_unmet known rfl
  · rw [ReadyList.replace, if_neg (mt ReadyList.isFree_iff_names.1 free)]
    exact asks_unmet free rfl

namespace Editor

variable {e e' : Editor} {b b' : Board} {t : Template}

def demands (e : Editor) (b : Board) : Demands Refusal :=
  [(ProjectName.Proper e.draft.name, .invalidProjectName e.draft.name),
    (e.draft.name = e.knownAs ∨ e.draft.name ∉ Template.names b.ready,
      .duplicateProjectName e.draft.name),
    (e.knownAs ∈ Template.names b.ready, .unknownProject e.knownAs)]

theorem asks_save (e : Editor) (b : Board) : save.Asks (e, b) (e.demands b) := by
  refine asks_get ?_
  refine (asks_require ProjectName.isValid_iff _ _).bind (reads_require _ _) fun _ _ _ => ?_
  refine Asks.andSure ?_ fun _ => (sure_modify _).bind fun _ => sure_modify _
  exact (Board.asks_update e.knownAs e.draft b).within rfl

/-- A granted save puts the draft in the place of the one project that was known by the name that
the editor knows it by, and takes over the name of the draft. -/
theorem save_eq_ok_sole (distinct : ReadyList.Distinct b.ready)
    (h : save.run (e, b) = .ok () (e', b')) :
    ∃ before x after, b.ready = before ++ x :: after ∧ x.name = e.knownAs ∧
      (∀ u ∈ before ++ after, u.name ≠ e.knownAs) ∧ e' = ⟨e.draft, e.draft.name⟩ ∧
      b' = { b with ready := before ++ e.draft :: after, edited := some e.draft } := by
  obtain ⟨-, rfl, ready, replaced, rfl⟩ := save_eq_ok h
  obtain ⟨before, x, after, split, named, others, rfl⟩ :=
    (ReadyList.replace_eq_ok replaced).2.sole distinct
  exact ⟨before, x, after, split, named, others, rfl, rfl⟩

/-- A project may be saved as it is if it may be called so. It becomes the one edited last. -/
theorem save_self (distinct : ReadyList.Distinct b.ready) (ht : t ∈ b.ready)
    (valid : ProjectName.isValid t.name = true) :
    save.run (⟨t, t.name⟩, b) = .ok () (⟨t, t.name⟩, { b with edited := some t }) := by
  have updated : (Board.update t.name t).run b = .ok () b := by
    simp only [Board.update, EStateM.run_bind, EStateM.run_get, ReadyList.replace_self distinct ht,
      run_ofExcept_ok, EStateM.run_set]
  simp only [save, onBoard, run_within, EStateM.run_bind, EStateM.run_get, valid, run_require_true,
    updated, EStateM.run_modify, announce]

/-- What was just saved can be saved again, and nothing changes. -/
theorem save_again (distinct : ReadyList.Distinct b.ready)
    (h : save.run (e, b) = .ok () (e', b')) : save.run (e', b') = .ok () (e', b') := by
  obtain ⟨valid, rfl, ready, replaced, rfl⟩ := save_eq_ok h
  have there : e.draft ∈ ready := by
    obtain ⟨-, before, x, after, -, -, rfl⟩ := ReadyList.replace_eq_ok replaced
    exact List.mem_append_right _ List.mem_cons_self
  exact save_self (b := { b with ready, edited := some e.draft }) (distinct.replace replaced) there
    valid

end Editor

end ProjectPicker
