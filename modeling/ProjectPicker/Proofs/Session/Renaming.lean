import ProjectPicker.Proofs.Editor
import ProjectPicker.Proofs.Session.Effects

/-!
# Renaming a project

* `asks_edit` : an editor is opened on a project that is in the ready list and has a name;
* `renameDemands`, `asks_rename` : what renaming asks for, and in which order. That nobody else has
  the new name is asked twice, but only the first time can it be refused;
* `rename_eq_ok_sole` : a granted change of name replaces the one project of the old name, and
  changes nothing else but the metadata edited last;
* `rename_settled` : that is what renaming comes to after every run.
-/

set_option autoImplicit false

namespace ProjectPicker.Session

open Demands Attempt

variable {ε : Type} {s s' : Session} {old new name : String}

/-! ## What is asked for -/

theorem asks_edit (name : String) (s : Session) :
    (edit name).Asks s
      [(name ∈ Template.names s.board.ready, .unknownProject name),
        (Text.isBlankText name = false, .missingTemplateName)] := by
  refine asks_get ?_
  cases found : ReadyList.find? s.board.ready name with
  | none => exact asks_unmet (ReadyList.find?_eq_none_iff.1 found) rfl
  | some t =>
    have named : t.name = name :=
      eq_of_beq (List.find?_some (p := fun t : Template => t.name == name) found)
    have known : name ∈ Template.names s.board.ready :=
      ReadyList.mem_names.2 ⟨t, List.mem_of_find?_eq_some found, named⟩
    refine Asks.first ?_ known _
    change (ofExcept (Editor.openOn t)).Asks s _
    rw [← named]
    by_cases blank : Text.isBlankText t.name = false
    · refine Asks.first ?_ blank _
      rw [Editor.openOn, if_neg (Bool.eq_false_iff.1 blank)]
      exact asks_sure (sure_pure _) s
    · rw [Editor.openOn, if_pos (Bool.not_eq_false _ ▸ blank)]
      exact asks_unmet blank rfl

def renameDemands (old new : String) (s : Session) : Demands Refusal :=
  [(old ∈ Template.names s.board.ready, .unknownProject old),
    (Text.isBlankText old = false, .missingTemplateName),
    (new = old ∨ new ∉ Template.names s.board.ready, .duplicateProjectName new),
    (ProjectName.Proper new, .invalidProjectName new)]

theorem asks_save (e : Editor) (s : Session) : save.Asks (e, s) (e.demands s.board) := by
  rw [save]
  exact Asks.within (Editor.asks_save e s.board) rfl

/-- The save at the end asks for more than a proper name, but all the rest was asked before. -/
theorem asks_rename (old new : String) (s : Session) :
    (rename old new).Asks s (renameDemands old new s) := by
  refine (asks_edit old s).bind (reads_edit old) fun e opened he => asks_get ?_
  obtain ⟨-, t, ht, named, rfl⟩ := edit_eq_ok he
  refine (asks_require ReadyList.isFree_iff_names _ s).bind (reads_require _ _) fun _ free _ => ?_
  have known : old ∈ Template.names s.board.ready := (met_cons.1 opened).1
  have saving := asks_save ⟨{ t with name := new, path := "/" ++ new }, old⟩ s
  refine (Asks.settle [_] saving ?_).withOwn
  exact met_cons.2 ⟨(met_cons.1 free).1, met_cons.2 ⟨known, met_nil⟩⟩

/-! ## What is done -/

/-- A granted change of name replaces the one project of the old name by the same under the new
name, and nothing else has changed but the metadata edited last. -/
theorem rename_eq_ok_sole (distinct : ReadyList.Distinct s.board.ready)
    (h : (rename old new).run s = .ok () s') :
    ∃ before t after, s.board.ready = before ++ t :: after ∧ t.name = old ∧
      (∀ u ∈ before ++ after, u.name ≠ old) ∧
      let renamed : Template := { t with name := new, path := "/" ++ new }
      s' = s.written (before ++ renamed :: after) renamed := by
  obtain ⟨t, ht, named, ready, replaced, rfl⟩ := rename_eq_ok h
  obtain ⟨before, x, after, split, -, others, rfl⟩ :=
    (ReadyList.replace_eq_ok replaced).2.sole distinct
  obtain rfl : t = x := by
    rw [split] at ht
    obtain ht | ht := List.mem_append.1 ht
    · exact absurd named (others t (List.mem_append_left _ ht))
    · obtain rfl | ht := List.mem_cons.1 ht
      · rfl
      · exact absurd named (others t (List.mem_append_right _ ht))
  exact ⟨before, t, after, split, named, others, rfl⟩

/-- After every run, a project gets another name exactly if it is in the ready list under the old
name, which is not blank, nobody else has the new name, and that is proper; the first of these that
does not hold is the reason for the refusal, which changes nothing. If it is granted, the same
project stands in the same place under the new name and with the path that goes with it, it is the
one edited last, and all else is as it was: the other projects, the fields and the selector, and
what was sent. -/
theorem rename_settled (stackList : List Stack) (ops : List (Operation ε)) (old new : String) :
    let s := (start stackList).run ops
    ((∃ s', (rename old new).run s = .ok () s') ↔ Met (renameDemands old new s)) ∧
      (∀ r s', (rename old new).run s = .error r s' ↔
        FirstUnmet (renameDemands old new s) r ∧ s' = s) ∧
      ∀ s', (rename old new).run s = .ok () s' →
        ∃ before t after, s.board.ready = before ++ t :: after ∧ t.name = old ∧
          (∀ u ∈ before ++ after, u.name ≠ old) ∧
          let renamed : Template := { t with name := new, path := "/" ++ new }
          s' = { s with
            board := { s.board with
              ready := before ++ renamed :: after
              edited := some renamed } } := by
  intro s
  have asks := asks_rename old new s
  refine ⟨asks.granted_unit_iff, fun r s' => asks.refused_iff, fun s' granted => ?_⟩
  exact rename_eq_ok_sole (distinct_run stackList ops) granted

/-- Three imports, the last of a project with a blank name. -/
def threeImports : List (Operation Empty) :=
  [.typeGit "host/a.git", .add .git, .typeGit "host/b.git", .add .git, .typeGit "host/ .git",
    .add .git]

/-- One project gets another name, and each reason to refuse that has its turn. -/
theorem rename_settled_threeImports :
    let s := (start []).run threeImports
    (∃ s', (rename "a" "c").run s = .ok () s' ∧
      ∃ before t after, s.board.ready = before ++ t :: after ∧ t.name = "a" ∧
        s'.board.ready = before ++ { t with name := "c", path := "/c" } :: after) ∧
      (rename "d" "b").run s = .error (.unknownProject "d") s ∧
      (rename " " "b").run s = .error .missingTemplateName s ∧
      (rename "a" "b").run s = .error (.duplicateProjectName "b") s ∧
      (rename "a" "c d").run s = .error (.invalidProjectName "c d") s := by
  intro s
  have names : Template.names s.board.ready = ["a", "b", " "] := by decide +kernel
  have proper_c : ProjectName.Proper "c" := ProjectName.isValid_iff.1 (by decide)
  have not_proper : ¬ ProjectName.Proper "c d" := mt ProjectName.isValid_iff.2 (by decide)
  have general := rename_settled [] threeImports
  refine ⟨?_, ?_, ?_, ?_, ?_⟩
  · have met : Met (renameDemands "a" "c" s) := by
      simp only [renameDemands, names, met_cons, met_nil]
      exact ⟨by decide, by decide, by decide, proper_c, trivial⟩
    obtain ⟨granted_iff, -, done⟩ := general "a" "c"
    obtain ⟨s', granted⟩ := granted_iff.2 met
    obtain ⟨before, t, after, split, named, -, rfl⟩ := done s' granted
    exact ⟨_, granted, before, t, after, split, named, rfl⟩
  · refine ((general "d" "b").2.1 _ s).2 ⟨.here ?_, rfl⟩
    rw [names]
    decide
  · refine ((general " " "b").2.1 _ s).2 ⟨.later ?_ (.here (by decide)), rfl⟩
    rw [names]
    decide
  · refine ((general "a" "b").2.1 _ s).2 ⟨.later ?_ (.later (by decide) (.here ?_)), rfl⟩
    all_goals
      rw [names]
      decide
  · refine ((general "a" "c d").2.1 _ s).2
      ⟨.later ?_ (.later (by decide) (.later ?_ (.here not_proper))), rfl⟩
    all_goals
      rw [names]
      decide

end ProjectPicker.Session
