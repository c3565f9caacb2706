import ProjectPicker.Command
import ProjectPicker.Proofs.Board

/-!
# What the operations of a session do

As with attempts on the board, each operation that may be refused has two facts: what a granted one
has done (`load_eq_ok`, `selectStack_eq_ok`, `add_eq_ok`, `save_eq_ok`, `rename_eq_ok`), and that a
refused one has done nothing (`atomic_load`, `atomic_selectStack` and so on, `refused_unchanged`).
`Session.revise` edits a project and saves it in one go.
-/

set_option autoImplicit false

namespace ProjectPicker.Session

variable {ε : Type} {s s' : Session} {e e' : Editor} {names : List String}

/-- Opens an editor on a project, edits the draft at will and saves it. -/
def revise (name : String) (edits : Template → Template) : Attempt Refusal Session Unit := do
  let e ← edit name
  save.withOwn { e with draft := edits e.draft }

/-! ## Granted -/

theorem load_eq_ok {fetched : Except ε (List Template)} (h : (load fetched).run s = .ok () s') :
    ∃ catalogue, fetched = .ok catalogue ∧
      s' = { s with
        board := { s.board with catalogue }
        selector := s.selector.fetched { s.board with catalogue } } := by
  cases fetched with
  | error r => cases h
  | ok catalogue =>
    cases h
    exact ⟨catalogue, rfl, rfl⟩

theorem selectStack_eq_ok {id : Option String} (h : (selectStack id).run s = .ok () s') :
    s' = s.activate id := by
  cases id with
  | none =>
    cases h
    rfl
  | some id =>
    simp only [selectStack, EStateM.run_bind, EStateM.run_get] at h
    cases hf : (Stack.find? s.board.stackList id).isSome with
    | false => simp [hf] at h
    | true =>
      simp only [hf, Attempt.run_require_true] at h
      cases h
      rfl

theorem add_eq_ok {source : Source} (h : (add source).run s = .ok names s') :
    ∃ batch, s.board.candidates source = .ok batch ∧ Template.names batch = names ∧
      ReadyList.append s.board.ready batch = .ok (s.board.ready ++ batch) ∧
      s' = ({ s with board := { s.board with ready := s.board.ready ++ batch } } :
        Session).announceAll names := by
  simp only [add, onBoard, EStateM.run_bind, Attempt.run_within] at h
  cases ht : (Board.takeIn source).run s.board with
  | error r b => simp [ht] at h
  | ok given b =>
    simp only [ht, EStateM.run_modify, EStateM.run_pure, EStateM.Result.ok.injEq] at h
    obtain ⟨rfl, rfl⟩ := h
    obtain ⟨batch, hc, hn, ha, rfl⟩ := Board.takeIn_eq_ok ht
    exact ⟨batch, hc, hn, ha, rfl⟩

theorem add_granted {source : Source} {batch ready : List Template}
    (hc : s.board.candidates source = .ok batch)
    (ha : ReadyList.append s.board.ready batch = .ok ready) :
    (add source).run s = .ok (Template.names batch)
      (({ s with board := { s.board with ready } } : Session).announceAll
        (Template.names batch)) := by
  simp only [add, onBoard, EStateM.run_bind, Attempt.run_within, Board.takeIn_granted hc ha,
    EStateM.run_modify, EStateM.run_pure]

theorem add_eq_error {source : Source} {r : Refusal}
    (h : (Board.takeIn source).run s.board = .error r s.board) :
    (add source).run s = .error r s := by
  simp [add, onBoard, Attempt.run_within, h]

theorem save_eq_ok (h : save.run (e, s) = .ok () (e', s')) :
    ProjectName.isValid e.draft.name = true ∧ e' = { e with knownAs := e.draft.name } ∧
      ∃ ready, ReadyList.replace s.board.ready e.knownAs e.draft = .ok ready ∧
        s' = { s with board := { s.board with ready, edited := some e.draft } } := by
  rw [save, Attempt.run_within] at h
  cases hs : Editor.save.run (e, s.board) with
  | error r t => simp [hs] at h
  | ok x t =>
    obtain ⟨e₁, b₁⟩ := t
    obtain ⟨hv, rfl, ready, hr, rfl⟩ := Editor.save_eq_ok hs
    simp only [hs, EStateM.Result.ok.injEq, Prod.mk.injEq, true_and] at h
    exact ⟨hv, h.1.symm, ready, hr, h.2.symm⟩

/-- An editor is opened on the project of the name, and knows it by that name. -/
theorem edit_eq_ok {name : String} (h : (edit name).run s = .ok e s') :
    s' = s ∧ ∃ t ∈ s.board.ready, t.name = name ∧ e = ⟨t, name⟩ := by
  simp only [edit, EStateM.run_bind, EStateM.run_get] at h
  split at h
  · next t ht =>
    have hn := List.find?_some (p := fun t : Template => t.name == name) ht
    obtain rfl := eq_of_beq hn
    unfold Editor.openOn at h
    split at h
    · cases h
    · cases h
      exact ⟨rfl, t, List.mem_of_find?_eq_some ht, rfl, rfl⟩
  · cases h

theorem save_withOwn_eq_ok (h : (save.withOwn e).run s = .ok () s') :
    ProjectName.isValid e.draft.name = true ∧ ∃ ready,
      ReadyList.replace s.board.ready e.knownAs e.draft = .ok ready ∧
      s' = { s with board := { s.board with ready, edited := some e.draft } } := by
  rw [Attempt.run_withOwn] at h
  split at h
  · next x r hs =>
    cases h
    obtain ⟨valid, -, saved⟩ := save_eq_ok hs
    exact ⟨valid, saved⟩
  · cases h

/-- A granted change of name opens an editor, and writes what it edits with the new name and the
path that goes with it. -/
theorem rename_granted {old new : String} (h : (rename old new).run s = .ok () s') :
    ∃ e, (edit old).run s = .ok e s ∧
      let renamed : Template := { e.draft with name := new, path := "/" ++ new }
      ProjectName.isValid new = true ∧ ∃ ready,
        ReadyList.replace s.board.ready old renamed = .ok ready ∧
        s' = { s with board := { s.board with ready, edited := some renamed } } := by
  rw [rename, EStateM.run_bind] at h
  cases he : (edit old).run s with
  | error r u => simp [he] at h
  | ok e u =>
    obtain ⟨rfl, t, ht, hn, rfl⟩ := edit_eq_ok he
    simp only [he, EStateM.run_bind, EStateM.run_get] at h
    cases hf : Editor.isNameFree ⟨t, old⟩ u.board new with
    | false => simp [hf] at h
    | true =>
      simp only [hf, Attempt.run_require_true] at h
      exact ⟨⟨t, old⟩, rfl, save_withOwn_eq_ok h⟩

theorem rename_eq_ok {old new : String} (h : (rename old new).run s = .ok () s') :
    ∃ t ∈ s.board.ready, t.name = old ∧
      let renamed : Template := { t with name := new, path := "/" ++ new }
      ∃ ready, ReadyList.replace s.board.ready old renamed = .ok ready ∧
        s' = { s with board := { s.board with ready, edited := some renamed } } := by
  obtain ⟨e, he, -, written⟩ := rename_granted h
  obtain ⟨-, t, ht, hn, rfl⟩ := edit_eq_ok he
  exact ⟨t, ht, hn, written⟩

/-- A granted revision opens an editor, and writes what it edits with the changes made. -/
theorem revise_granted {name : String} {edits : Template → Template}
    (h : (revise name edits).run s = .ok () s') :
    ∃ e, (edit name).run s = .ok e s ∧ ProjectName.isValid (edits e.draft).name = true ∧
      ∃ ready, ReadyList.replace s.board.ready name (edits e.draft) = .ok ready ∧
        s' = { s with board := { s.board with ready, edited := some (edits e.draft) } } := by
  rw [revise, EStateM.run_bind] at h
  cases he : (edit name).run s with
  | error r u => simp [he] at h
  | ok e u =>
    obtain ⟨rfl, t, ht, hn, rfl⟩ := edit_eq_ok he
    simp only [he] at h
    exact ⟨⟨t, name⟩, rfl, save_withOwn_eq_ok h⟩

theorem revise_eq_ok {name : String} {edits : Template → Template}
    (h : (revise name edits).run s = .ok () s') :
    ∃ t ∈ s.board.ready, t.name = name ∧
      ∃ ready, ReadyList.replace s.board.ready name (edits t) = .ok ready ∧
        s' = { s with board := { s.board with ready, edited := some (edits t) } } := by
  obtain ⟨e, he, -, written⟩ := revise_granted h
  obtain ⟨-, t, ht, hn, rfl⟩ := edit_eq_ok he
  exact ⟨t, ht, hn, written⟩

/-! ## Refused -/

theorem atomic_onBoard {α : Type} {a : Attempt ε Board α} (ha : a.Atomic) :
    (onBoard a).Atomic :=
  ha.within fun _ => rfl

theorem atomic_load (fetched : Except ε (List Template)) : (load fetched).Atomic := by
  refine (Attempt.reads_ofExcept fetched).bind fun catalogue => ?_
  exact (((Attempt.sure_modify _).within _ _).bind fun _ => Attempt.sure_modify _).atomic

theorem atomic_selectStack (id : Option String) : (selectStack id).Atomic := by
  refine Attempt.reads_get.bind fun s => ?_
  cases id with
  | none => exact (Attempt.sure_modify _).atomic
  | some id =>
    exact (Attempt.reads_require _ _).bind fun _ => (Attempt.sure_modify _).atomic

theorem atomic_add (source : Source) : (add source).Atomic := by
  refine (atomic_onBoard (Board.atomic_takeIn source)).bind fun names => ?_
  exact (Attempt.sure_modify _).bind fun _ => Attempt.sure_pure _

theorem reads_edit (name : String) : (edit name).Reads := by
  refine Attempt.reads_get.andThen fun s => ?_
  split
  · exact Attempt.reads_ofExcept _
  · exact Attempt.reads_throw _

/-- A refused save leaves the session as it was, and the editor as well. -/
theorem atomic_save : save.Atomic := Editor.atomic_save.within fun _ => rfl

theorem atomic_rename (old new : String) : (rename old new).Atomic := by
  refine (reads_edit old).bind fun e => ?_
  refine Attempt.reads_get.bind fun s => ?_
  refine (Attempt.reads_require _ _).bind fun _ => ?_
  exact atomic_save.withOwn _

theorem atomic_revise (name : String) (edits : Template → Template) :
    (revise name edits).Atomic :=
  (reads_edit name).bind fun _ => atomic_save.withOwn _

theorem atomic_apply (command : Command) : (apply command).Atomic := by
  cases command with
  | selectStack id => exact atomic_selectStack id
  | setGitLocation location => exact (Attempt.sure_modify _).atomic
  | setZipLocation location skip => exact (Attempt.sure_modify _).atomic
  | toggleTemplate name checked => exact (Attempt.sure_modify _).atomic
  | addFromSource source => exact (atomic_add source).bind fun _ => Attempt.sure_pure _
  | renameProject old new => exact atomic_rename old new

/-- A refused operation leaves the whole session as it was, with all that was ever sent, and a
refused save leaves the editor as it was too. -/
theorem refused_unchanged (s s' : Session) :
    (∀ (ε : Type) (fetched : Except ε (List Template)) r,
        (load fetched).run s = .error r s' → s' = s) ∧
      (∀ id r, (selectStack id).run s = .error r s' → s' = s) ∧
      (∀ source r, (add source).run s = .error r s' → s' = s) ∧
      (∀ old new r, (rename old new).run s = .error r s' → s' = s) ∧
      (∀ name r, (edit name).run s = .error r s' → s' = s) ∧
      (∀ name edits r, (revise name edits).run s = .error r s' → s' = s) ∧
      (∀ e e' r, save.run (e, s) = .error r (e', s') → s' = s ∧ e' = e) ∧
      ∀ command r, (apply command).run s = .error r s' → s' = s := by
  refine ⟨fun ε fetched r => atomic_load fetched s r s', fun id r => atomic_selectStack id s r s',
    fun source r => atomic_add source s r s', fun old new r => atomic_rename old new s r s',
    fun name r => (reads_edit name).atomic s r s',
    fun name edits r => atomic_revise name edits s r s', fun e e' r h => ?_,
    fun command r => atomic_apply command s r s'⟩
  obtain ⟨he, hs⟩ := Prod.mk.inj (atomic_save _ _ _ h)
  exact ⟨hs, he⟩

/-- A session with the project `a`, where an import of `c` and another `a` is about to fail. -/
def contested : Session :=
  { start [] with
    board := { ready := [{ name := "a" }], chosen := [{ name := "c" }, { name := "a" }] } }

theorem refused_unchanged_contested :
    let s := contested
    (∃ s', (load (.error "unreadable")).run s = .error "unreadable" s' ∧ s' = s) ∧
      (∃ s', (selectStack (some "x")).run s = .error (.unknownStack "x") s' ∧ s' = s) ∧
      (∃ s', (add .templates).run s = .error (.duplicateProjectName "a") s' ∧ s' = s) ∧
      (∃ s', (rename "b" "d").run s = .error (.unknownProject "b") s' ∧ s' = s) ∧
      (∃ s', (edit "b").run s = .error (.unknownProject "b") s' ∧ s' = s) ∧
      (∃ s', (revise "a" fun t => { t with name := "a b" }).run s =
        .error (.invalidProjectName "a b") s' ∧ s' = s) ∧
      (∃ e' s', save.run (⟨{ name := "a" }, "b"⟩, s) = .error (.duplicateProjectName "a") (e', s') ∧
        s' = s ∧ e' = ⟨{ name := "a" }, "b"⟩) ∧
      ∃ s', (apply (.addFromSource .git)).run s = .error (.emptyLocation .git) s' ∧ s' = s := by
  intro s
  obtain ⟨load, selectStack, add, rename, edit, revise, save, apply⟩ := refused_unchanged s s
  exact ⟨⟨s, rfl, load String (.error "unreadable") _ rfl⟩, ⟨s, rfl, selectStack (some "x") _ rfl⟩,
    ⟨s, rfl, add .templates _ rfl⟩, ⟨s, rfl, rename "b" "d" _ rfl⟩, ⟨s, rfl, edit "b" _ rfl⟩,
    ⟨s, rfl, revise "a" (fun t => { t with name := "a b" }) _ rfl⟩,
    ⟨_, s, rfl, save ⟨{ name := "a" }, "b"⟩ _ _ rfl⟩, ⟨s, rfl, apply (.addFromSource .git) _ rfl⟩⟩

end ProjectPicker.Session
