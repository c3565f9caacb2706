import ProjectPicker.Proofs.Location
import ProjectPicker.Proofs.Session.Announcements

/-!
# Imports and the fields they come from

* `add_git`, `add_zip` : what a granted import from a field leaves of the field;
* `import_consumes_iff` : in every session that a run leads to, an import consumes its field exactly
  if there are no blanks around the name of the project. Else the field stays, and another import
  from it is refused because the name is taken.
-/

set_option autoImplicit false

namespace ProjectPicker.Session

variable {ε : Type} {s s' : Session} {names : List String} {name : String}

/-! ## Imports from a field -/

theorem add_single (name : String) {source : Source} {t : Template} (wired : Wired s.channel)
    (hc : s.board.candidates source = .ok [t]) (ht : t.name = name)
    (h : (add source).run s = .ok names s') :
    names = [name] ∧
      s'.git = (if s.git.refersTo name then ⟨""⟩ else s.git) ∧
      s'.zip = (if s.zip.refersTo name then ⟨"", false⟩ else s.zip) ∧
      s'.board.gitLocation = (if s.git.refersTo name then "" else s.board.gitLocation) ∧
      s'.board.zipLocation = (if s.zip.refersTo name then "" else s.board.zipLocation) ∧
      s'.board.zipSkip = (if s.zip.refersTo name then false else s.board.zipSkip) ∧
      name ∈ Template.names s'.board.ready := by
  subst ht
  obtain ⟨batch, hb, rfl, -, hs⟩ := add_eq_ok h
  obtain rfl : [t] = batch := Except.ok.inj (hc.symm.trans hb)
  have after := announced (s := { s with
    board := { s.board with ready := s.board.ready ++ [t] } }) wired t.name
  rw [hs.trans after]
  simp

/-- A granted import from the Git field empties it unless there are blanks around the name. -/
theorem add_git (wired : Wired s.channel) (inStep : InStep s)
    (h : (add .git).run s = .ok names s') :
    ∃ name, names = [name] ∧
      Location.projectName? s.git.location Location.gitExtension = some name ∧
      (Text.trim name = name →
        s'.git.location = "" ∧ s'.board.gitLocation = "" ∧
          (add .git).run s' = .error (.emptyLocation .git) s') ∧
      (Text.trim name ≠ name →
        s'.git = s.git ∧ s'.board.gitLocation = s.board.gitLocation ∧
          (add .git).run s' = .error (.duplicateProjectName name) s') := by
  obtain ⟨batch, hc, -⟩ := add_eq_ok h
  obtain ⟨name, hp, rfl⟩ := Board.candidates_git_eq_ok.1 hc
  obtain ⟨hn, git, -, location, -, -, taken⟩ := add_single name wired hc rfl h
  have hp' : Location.projectName? s.git.location Location.gitExtension = some name := by
    rw [inStep.git, hp]
  have refers : s.git.refersTo name = true ↔ Text.trim name = name :=
    Location.refersTo_own_iff hp'
  refine ⟨name, hn, hp', fun ht => ?_, fun ht => ?_⟩
  · rw [if_pos (refers.2 ht)] at git location
    exact ⟨by rw [git], location,
      add_eq_error (Board.takeIn_empty (Board.candidates_git_empty location))⟩
  · rw [if_neg (mt refers.1 ht)] at git location
    have again := Board.candidates_git_eq_ok.2 ⟨name, location ▸ hp, rfl⟩
    exact ⟨git, location, add_eq_error (Board.takeIn_taken again taken)⟩

/-- A granted import from the Zip fields resets them unless there are blanks around the name. -/
theorem add_zip (wired : Wired s.channel) (inStep : InStep s)
    (h : (add .zip).run s = .ok names s') :
    ∃ name, names = [name] ∧
      Location.projectName? s.zip.location Location.zipExtension = some name ∧
      (Text.trim name = name →
        (s'.zip.location = "" ∧ s'.zip.skip = false) ∧
          (s'.board.zipLocation = "" ∧ s'.board.zipSkip = false) ∧
          (add .zip).run s' = .error (.emptyLocation .zip) s') ∧
      (Text.trim name ≠ name →
        s'.zip = s.zip ∧
          (s'.board.zipLocation = s.board.zipLocation ∧ s'.board.zipSkip = s.board.zipSkip) ∧
          (add .zip).run s' = .error (.duplicateProjectName name) s') := by
  obtain ⟨batch, hc, -⟩ := add_eq_ok h
  obtain ⟨name, hp, rfl⟩ := Board.candidates_zip_eq_ok.1 hc
  obtain ⟨hn, -, zip, -, location, skip, taken⟩ := add_single name wired hc rfl h
  have hp' : Location.projectName? s.zip.location Location.zipExtension = some name := by
    rw [inStep.zip, hp]
  have refers : s.zip.refersTo name = true ↔ Text.trim name = name :=
    Location.refersTo_own_iff hp'
  refine ⟨name, hn, hp', fun ht => ?_, fun ht => ?_⟩
  · rw [if_pos (refers.2 ht)] at zip location skip
    exact ⟨by simp [zip], ⟨location, skip⟩,
      add_eq_error (Board.takeIn_empty (Board.candidates_zip_empty location))⟩
  · rw [if_neg (mt refers.1 ht)] at zip location skip
    have again := Board.candidates_zip_eq_ok.2 ⟨name, location ▸ hp, rfl⟩
    exact ⟨zip, ⟨location, skip⟩, add_eq_error (Board.takeIn_taken again taken)⟩

/-- In every session that a run leads to, a granted import from a field empties the field, in the
view and on the board, and leaves nothing to import there, exactly if there are no blanks around the
name of the project. Else the field stays as it was, and another import from it is refused because
the name is taken. -/
theorem import_consumes_iff (stackList : List Stack) (ops : List (Operation ε)) :
    let s := (start stackList).run ops
    (∀ names s', (add .git).run s = .ok names s' →
      ∃ name, names = [name] ∧
        Location.projectName? s.git.location Location.gitExtension = some name ∧
        (Text.trim name = name →
          s'.git.location = "" ∧ s'.board.gitLocation = "" ∧
            (add .git).run s' = .error (.emptyLocation .git) s') ∧
        (Text.trim name ≠ name →
          s'.git = s.git ∧ s'.board.gitLocation = s.board.gitLocation ∧
            (add .git).run s' = .error (.duplicateProjectName name) s')) ∧
      ∀ names s', (add .zip).run s = .ok names s' →
        ∃ name, names = [name] ∧
          Location.projectName? s.zip.location Location.zipExtension = some name ∧
          (Text.trim name = name →
            (s'.zip.location = "" ∧ s'.zip.skip = false) ∧
              (s'.board.zipLocation = "" ∧ s'.board.zipSkip = false) ∧
              (add .zip).run s' = .error (.emptyLocation .zip) s') ∧
          (Text.trim name ≠ name →
            s'.zip = s.zip ∧
              (s'.board.zipLocation = s.board.zipLocation ∧
                s'.board.zipSkip = s.board.zipSkip) ∧
              (add .zip).run s' = .error (.duplicateProjectName name) s') := by
  obtain ⟨wired, inStep⟩ := run_inStep stackList ops
  exact ⟨fun names s' h => add_git wired inStep h, fun names s' h => add_zip wired inStep h⟩

def typed (git zip : String) : Session :=
  (start []).run [(.typeGit git : Operation Empty), .typeZip zip true]

section Typed

variable {git zip : String}

theorem typed_add {source : Source} {t : Template}
    (hc : (typed git zip).board.candidates source = .ok [t]) :
    ∃ s', (add source).run (typed git zip) = .ok [t.name] s' := by
  have ready : (typed git zip).board.ready = [] := rfl
  have ha : ReadyList.append (typed git zip).board.ready [t] = .ok [t] := by
    rw [ready]
    rfl
  exact ⟨_, add_granted hc ha⟩

theorem typed_add_git (h : Location.projectName? git Location.gitExtension = some name) :
    ∃ s', (add .git).run (typed git zip) = .ok [name] s' := by
  have location : (typed git zip).board.gitLocation = git := rfl
  exact typed_add (Board.candidates_git_eq_ok.2 ⟨name, location.symm ▸ h, rfl⟩)

theorem typed_add_zip (h : Location.projectName? zip Location.zipExtension = some name) :
    ∃ s', (add .zip).run (typed git zip) = .ok [name] s' := by
  have location : (typed git zip).board.zipLocation = zip := rfl
  exact typed_add (Board.candidates_zip_eq_ok.2 ⟨name, location.symm ▸ h, rfl⟩)

end Typed

theorem import_consumes_foo :
    (∃ s', (add .git).run (typed "host/foo.git" "host/foo.zip") = .ok ["foo"] s' ∧
        s'.git.location = "" ∧ s'.board.gitLocation = "" ∧
        (add .git).run s' = .error (.emptyLocation .git) s') ∧
      (∃ s', (add .zip).run (typed "host/foo.git" "host/foo.zip") = .ok ["foo"] s' ∧
        (s'.zip.location = "" ∧ s'.zip.skip = false) ∧
        (s'.board.zipLocation = "" ∧ s'.board.zipSkip = false) ∧
        (add .zip).run s' = .error (.emptyLocation .zip) s') ∧
      (∃ s', (add .git).run (typed "host/ foo.git" "host/ foo.zip") = .ok [" foo"] s' ∧
        (add .git).run s' = .error (.duplicateProjectName " foo") s') ∧
      ∃ s', (add .zip).run (typed "host/ foo.git" "host/ foo.zip") = .ok [" foo"] s' ∧
        (add .zip).run s' = .error (.duplicateProjectName " foo") s' := by
  obtain ⟨git, zip⟩ := import_consumes_iff []
    [(.typeGit "host/foo.git" : Operation Empty), .typeZip "host/foo.zip" true]
  obtain ⟨git', zip'⟩ := import_consumes_iff []
    [(.typeGit "host/ foo.git" : Operation Empty), .typeZip "host/ foo.zip" true]
  obtain ⟨s₁, h₁⟩ := typed_add_git
    (show Location.projectName? "host/foo.git" Location.gitExtension = some "foo" by decide)
  obtain ⟨s₂, h₂⟩ := typed_add_zip
    (show Location.projectName? "host/foo.zip" Location.zipExtension = some "foo" by decide)
  obtain ⟨s₃, h₃⟩ := typed_add_git
    (show Location.projectName? "host/ foo.git" Location.gitExtension = some " foo" by decide)
  obtain ⟨s₄, h₄⟩ := typed_add_zip
    (show Location.projectName? "host/ foo.zip" Location.zipExtension = some " foo" by decide)
  refine ⟨⟨s₁, h₁, ?_⟩, ⟨s₂, h₂, ?_⟩, ⟨s₃, h₃, ?_⟩, ⟨s₄, h₄, ?_⟩⟩
  · obtain ⟨name, hn, -, consumed, -⟩ := git _ _ h₁
    cases hn
    exact consumed (by decide)
  · obtain ⟨name, hn, -, consumed, -⟩ := zip _ _ h₂
    cases hn
    exact consumed (by decide)
  · obtain ⟨name, hn, -, -, kept⟩ := git' _ _ h₃
    cases hn
    exact (kept (by decide)).2.2
  · obtain ⟨name, hn, -, -, kept⟩ := zip' _ _ h₄
    cases hn
    exact (kept (by decide)).2.2

/-- Two imports that are granted and leave their fields as they were. -/
theorem import_keeps_blank_name :
    let s := typed "https://host/ foo.git" "https://host/ foo.zip"
    (∃ s', (add .git).run s = .ok [" foo"] s' ∧
        s'.git.location = "https://host/ foo.git" ∧
        s'.board.gitLocation = "https://host/ foo.git" ∧
        (add .git).run s' = .error (.duplicateProjectName " foo") s') ∧
      ∃ s', (add .zip).run s = .ok [" foo"] s' ∧
        s'.zip = ⟨"https://host/ foo.zip", true⟩ ∧
        (s'.board.zipLocation = "https://host/ foo.zip" ∧ s'.board.zipSkip = true) ∧
        (add .zip).run s' = .error (.duplicateProjectName " foo") s' := by
  intro s
  have git : Location.projectName? "https://host/ foo.git" Location.gitExtension = some " foo" := by
    decide
  have zip : Location.projectName? "https://host/ foo.zip" Location.zipExtension = some " foo" := by
    decide
  obtain ⟨wired, inStep⟩ : Wired s.channel ∧ InStep s := run_inStep _ _
  constructor
  · obtain ⟨s', h⟩ := typed_add_git git
    obtain ⟨name, hn, -, -, kept⟩ := add_git wired inStep h
    cases hn
    obtain ⟨field, board, again⟩ := kept (by decide)
    exact ⟨s', h, congrArg GitField.location field, board, again⟩
  · obtain ⟨s', h⟩ := typed_add_zip zip
    obtain ⟨name, hn, -, -, kept⟩ := add_zip wired inStep h
    cases hn
    obtain ⟨field, board, again⟩ := kept (by decide)
    exact ⟨s', h, field, board, again⟩

end ProjectPicker.Session
