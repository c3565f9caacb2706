import ProjectPicker.Editor
import ProjectPicker.Proofs.Attempt
import ProjectPicker.Proofs.ReadyList

/-!
# What attempts on the board do

Each attempt on the board has two facts that all else is derived from: what a granted one has done
(`takeIn_eq_ok`, `update_eq_ok`, `remove_eq_ok`, `save_eq_ok`), and that a refused one has done
nothing (`atomic_takeIn`, `atomic_update`, `atomic_remove`, `atomic_save`). An import is refused
where nothing is offered (`takeIn_nothing`) or a name clashes (`takeIn_misfit`), and only there
(`Fits.takeIn`).
-/

set_option autoImplicit false

namespace ProjectPicker

namespace Board

variable {b b' : Board} {source : Source} {names : List String} {old name : String}
  {t : Template}

theorem takeIn_eq_ok (h : (takeIn source).run b = .ok names b') :
    ∃ batch, b.candidates source = .ok batch ∧ Template.names batch = names ∧
      ReadyList.append b.ready batch = .ok (b.ready ++ batch) ∧
      b' = { b with ready := b.ready ++ batch } := by
  simp only [takeIn, EStateM.run_bind, EStateM.run_get] at h
  cases hc : b.candidates source with
  | error r => simp [hc] at h
  | ok batch =>
    simp only [hc, Attempt.run_ofExcept_ok] at h
    cases ha : ReadyList.append b.ready batch with
    | error r => simp [ha] at h
    | ok ready =>
      obtain ⟨-, -, rfl⟩ := ReadyList.append_eq_ok_iff.1 ha
      simp only [ha, Attempt.run_ofExcept_ok, EStateM.run_set, EStateM.run_pure,
        EStateM.Result.ok.injEq] at h
      exact ⟨batch, rfl, h.1, ha, h.2.symm⟩

theorem update_eq_ok (h : (update old t).run b = .ok () b') :
    ∃ ready, ReadyList.replace b.ready old t = .ok ready ∧ b' = { b with ready } := by
  simp only [update, EStateM.run_bind, EStateM.run_get] at h
  cases hr : ReadyList.replace b.ready old t with
  | error r => simp [hr] at h
  | ok ready =>
    simp only [hr, Attempt.run_ofExcept_ok, EStateM.run_set, EStateM.Result.ok.injEq] at h
    exact ⟨ready, rfl, h.2.symm⟩

theorem remove_eq_ok (h : (remove name).run b = .ok t b') :
    ∃ ready, ReadyList.remove b.ready name = .ok (t, ready) ∧ b' = { b with ready } := by
  simp only [remove, EStateM.run_bind, EStateM.run_get] at h
  cases hr : ReadyList.remove b.ready name with
  | error r => simp [hr] at h
  | ok x =>
    obtain ⟨u, ready⟩ := x
    simp only [hr, Attempt.run_ofExcept_ok, EStateM.run_set, EStateM.run_pure,
      EStateM.Result.ok.injEq] at h
    obtain ⟨rfl, rfl⟩ := h
    exact ⟨ready, rfl, rfl⟩

theorem candidates_git_eq_ok {batch : List Template} :
    b.candidates .git = .ok batch ↔
      ∃ name, Location.projectName? b.gitLocation Location.gitExtension = some name ∧
        batch = [Location.template name "git" b.gitLocation .empty] := by
  rw [candidates, gitTemplate?, Location.gitTemplate?]
  cases Location.projectName? b.gitLocation Location.gitExtension with
  | none => simp
  | some name =>
    constructor
    · intro h
      exact ⟨name, rfl, (Except.ok.inj h).symm⟩
    · rintro ⟨_, ⟨⟩, rfl⟩
      rfl

theorem candidates_zip_eq_ok {batch : List Template} :
    b.candidates .zip = .ok batch ↔
      ∃ name, Location.projectName? b.zipLocation Location.zipExtension = some name ∧
        batch = [Location.template name "zip" b.zipLocation (if b.zipSkip then
          Parameters.empty.insert Location.skipFirstLevel "true" else .empty)] := by
  rw [candidates, zipTemplate?, Location.zipTemplate?]
  cases Location.projectName? b.zipLocation Location.zipExtension with
  | none => simp
  | some name =>
    constructor
    · intro h
      exact ⟨name, rfl, (Except.ok.inj h).symm⟩
    · rintro ⟨_, ⟨⟩, rfl⟩
      rfl

theorem candidates_git_empty (h : b.gitLocation = "") :
    b.candidates .git = .error (.emptyLocation .git) := by
  rw [candidates, gitTemplate?, h]
  rfl

theorem candidates_zip_empty (h : b.zipLocation = "") :
    b.candidates .zip = .error (.emptyLocation .zip) := by
  rw [candidates, zipTemplate?, h]
  rfl

def offered (b : Board) : Source → List Template
  | .git => b.gitTemplate?.toList
  | .zip => b.zipTemplate?.toList
  | .templates => b.chosen

def nothingOffered : Source → Refusal
  | .templates => .noTemplatesSelected
  | source => .emptyLocation source

theorem candidates_eq (b : Board) (source : Source) :
    b.candidates source =
      if b.offered source = [] then .error (nothingOffered source) else .ok (b.offered source) := by
  cases source with
  | git => cases h : b.gitTemplate? <;> simp [candidates, offered, nothingOffered, h]
  | zip => cases h : b.zipTemplate? <;> simp [candidates, offered, nothingOffered, h]
  | templates => by_cases h : b.chosen = [] <;> simp [candidates, offered, nothingOffered, h]

theorem candidates_templates_eq_ok {batch : List Template} :
    b.candidates .templates = .ok batch ↔ b.chosen ≠ [] ∧ batch = b.chosen := by
  rw [candidates_eq, offered]
  by_cases h : b.chosen = []
  · simp [h]
  · simp [h, eq_comm]

/-- What is not one of the templates chosen is the template of a location. -/
theorem imported_of_candidates {batch : List Template} (h : b.candidates source = .ok batch)
    (imported : source ≠ .templates) : ∀ t ∈ batch, ∃ location,
      Location.gitTemplate? location = some t ∨
        ∃ skip, Location.zipTemplate? location skip = some t := by
  intro t ht
  rw [candidates_eq] at h
  split at h
  · cases h
  · cases h
    cases source with
    | git => exact ⟨b.gitLocation, .inl (Option.mem_toList.1 ht)⟩
    | zip => exact ⟨b.zipLocation, .inr ⟨b.zipSkip, Option.mem_toList.1 ht⟩⟩
    | templates => exact absurd rfl imported

theorem takeIn_granted {batch ready : List Template} (hc : b.candidates source = .ok batch)
    (ha : ReadyList.append b.ready batch = .ok ready) :
    (takeIn source).run b = .ok (Template.names batch) { b with ready } := by
  simp only [takeIn, EStateM.run_bind, EStateM.run_get, hc, ha, Attempt.run_ofExcept_ok,
    EStateM.run_set, EStateM.run_pure]

theorem takeIn_empty {r : Refusal} (h : b.candidates source = .error r) :
    (takeIn source).run b = .error r b := by
  simp [takeIn, h]

theorem takeIn_clash {batch : List Template} {i : Nat} (hc : b.candidates source = .ok batch)
    (h : ReadyList.FirstClash (Template.names b.ready) (Template.names batch) i name) :
    (takeIn source).run b = .error (.duplicateProjectName name) b := by
  have refused := ReadyList.append_eq_error_iff.2 ⟨i, name, h, rfl⟩
  simp [takeIn, hc, refused]

/-- A single candidate is refused whose name is taken. -/
theorem takeIn_taken (h : b.candidates source = .ok [t]) (ht : t.name ∈ Template.names b.ready) :
    (takeIn source).run b = .error (.duplicateProjectName t.name) b :=
  takeIn_clash h (ReadyList.firstClash_zero.2 ⟨rfl, ht⟩)

/-- A source offers something, and all that it offers has names that are distinct and free. -/
structure Fits (b : Board) (source : Source) : Prop where
  offers : b.offered source ≠ []
  distinct : (Template.names (b.offered source)).Nodup
  free : ∀ n ∈ Template.names (b.offered source), n ∉ Template.names b.ready

theorem Fits.takeIn (h : b.Fits source) :
    (takeIn source).run b =
      .ok (Template.names (b.offered source)) { b with ready := b.ready ++ b.offered source } := by
  refine takeIn_granted ?_ (ReadyList.append_eq_ok_iff.2 ⟨h.distinct, h.free, rfl⟩)
  rw [candidates_eq, if_neg h.offers]

theorem takeIn_nothing (h : b.offered source = []) :
    (takeIn source).run b = .error (nothingOffered source) b := by
  refine takeIn_empty ?_
  rw [candidates_eq, if_pos h]

/-- Where something is offered that does not fit, the first name that clashes is to blame. -/
theorem takeIn_misfit (offers : b.offered source ≠ []) (h : ¬ b.Fits source) :
    ∃ i n, ReadyList.FirstClash (Template.names b.ready) (Template.names (b.offered source)) i n ∧
      (Board.takeIn source).run b = .error (.duplicateProjectName n) b := by
  have hc : b.candidates source = .ok (b.offered source) := by rw [candidates_eq, if_neg offers]
  cases ha : ReadyList.append b.ready (b.offered source) with
  | ok ready =>
    obtain ⟨distinct, free, -⟩ := ReadyList.append_eq_ok_iff.1 ha
    exact absurd ⟨offers, distinct, free⟩ h
  | error r =>
    obtain ⟨i, n, clash, -⟩ := ReadyList.append_eq_error_iff.1 ha
    exact ⟨i, n, clash, takeIn_clash hc clash⟩

theorem atomic_takeIn (source : Source) : (takeIn source).Atomic := by
  refine Attempt.reads_get.bind fun b => ?_
  refine (Attempt.reads_ofExcept (b.candidates source)).bind fun batch => ?_
  refine (Attempt.reads_ofExcept (ReadyList.append b.ready batch)).bind fun ready => ?_
  exact ((Attempt.sure_set _).bind fun _ => Attempt.sure_pure _).atomic

theorem atomic_update (old : String) (t : Template) : (update old t).Atomic := by
  refine Attempt.reads_get.bind fun b => ?_
  refine (Attempt.reads_ofExcept (ReadyList.replace b.ready old t)).bind fun ready => ?_
  exact (Attempt.sure_set _).atomic

theorem atomic_remove (name : String) : (remove name).Atomic := by
  refine Attempt.reads_get.bind fun b => ?_
  refine (Attempt.reads_ofExcept (ReadyList.remove b.ready name)).bind fun r => ?_
  exact ((Attempt.sure_set _).bind fun _ => Attempt.sure_pure _).atomic

/-! ## Changes of the ready list -/

/-- An attempt whose grants change the ready list changes it that way or not at all. -/
theorem keeps_changes {α : Type} {a : Attempt Refusal Board α} (ha : a.Atomic)
    (granted : ∀ b x b', a.run b = .ok x b' → ReadyList.Change b.ready b'.ready)
    (ready : List Template) : a.Keeps fun b => ReadyList.Changes ready b.ready :=
  ha.keeps fun b x b' h hb => hb.tail (granted b x b' h)

theorem change_of_takeIn (h : (takeIn source).run b = .ok names b') :
    ReadyList.Change b.ready b'.ready := by
  obtain ⟨batch, -, -, ha, rfl⟩ := takeIn_eq_ok h
  exact .append ha

theorem change_of_update (h : (update old t).run b = .ok () b') :
    ReadyList.Change b.ready b'.ready := by
  obtain ⟨ready, hr, rfl⟩ := update_eq_ok h
  exact .replace hr

theorem change_of_remove (h : (remove name).run b = .ok t b') :
    ReadyList.Change b.ready b'.ready := by
  obtain ⟨ready, hr, rfl⟩ := remove_eq_ok h
  exact .remove hr

end Board

namespace Editor

theorem atomic_onBoard {α : Type} {a : Attempt Refusal Board α} (ha : a.Atomic) :
    (onBoard a).Atomic :=
  ha.within fun _ => rfl

/-- A refused save leaves the board as it was, and the editor as well. -/
theorem atomic_save : save.Atomic := by
  refine Attempt.reads_get.bind fun (e, b) => ?_
  refine (Attempt.reads_require _ _).bind fun _ => ?_
  refine (atomic_onBoard (Board.atomic_update e.knownAs e.draft)).bind fun _ => ?_
  exact (Attempt.sure_modify _).bind fun _ => Attempt.sure_modify _

/-- A granted save puts the draft in the place of the project that it is a draft of, shows it as
the metadata edited last and takes over its name. -/
theorem save_eq_ok {e e' : Editor} {b b' : Board} (h : save.run (e, b) = .ok () (e', b')) :
    ProjectName.isValid e.draft.name = true ∧ e' = { e with knownAs := e.draft.name } ∧
      ∃ ready, ReadyList.replace b.ready e.knownAs e.draft = .ok ready ∧
        b' = { b with ready, edited := some e.draft } := by
  simp only [save, onBoard, EStateM.run_bind, EStateM.run_get, Attempt.run_within] at h
  cases hv : ProjectName.isValid e.draft.name with
  | false => simp [hv] at h
  | true =>
    simp only [hv, Attempt.run_require_true] at h
    cases hu : (Board.update e.knownAs e.draft).run b with
    | error r t => simp [hu] at h
    | ok x b₁ =>
      obtain ⟨ready, hr, rfl⟩ := Board.update_eq_ok hu
      simp only [hu, EStateM.run_modify, announce, EStateM.Result.ok.injEq, Prod.mk.injEq,
        true_and] at h
      exact ⟨rfl, h.1.symm, ready, hr, h.2.symm⟩

end Editor

end ProjectPicker
