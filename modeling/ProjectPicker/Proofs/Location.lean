import Mathlib.Data.List.Basic
import Mathlib.Data.List.TakeWhile
import ProjectPicker.Location
import ProjectPicker.Proofs.Text.Trim

/-!
# The project that a location names

* `projectName?_eq_some` : it has a name that is not empty and holds no separator;
* `refersTo_iff` : a location is taken to name a project exactly if it names the project that is
  called so without the blanks around it. The other two conditions of `Location.refersTo` hold by
  themselves then;
* `refersTo_own_iff` : a location is taken to name the project that it names unless there are blanks
  around that name;
* `refersTo_literal_iff` : so a location is taken to name exactly the project that it names, as long
  as there are no blanks around the name that is asked for.
-/

set_option autoImplicit false

namespace ProjectPicker.Location

variable {path text ending rest : List Char} {location extension name : String}

theorem not_separator_of_mem_lastSegment {c : Char} (h : c ∈ lastSegment path) :
    isSeparator c = false := by
  rw [lastSegment, List.mem_reverse] at h
  simpa using List.mem_takeWhile_imp h

theorem dropEnding?_eq_some (h : dropEnding? text ending = some rest) : text = rest ++ ending := by
  obtain ⟨stem, hs, rfl⟩ := Option.map_eq_some_iff.1 h
  rw [List.isPrefixOf?_eq_some_iff_append_eq] at hs
  rw [← List.reverse_inj, ← hs]
  simp

theorem projectNameChars?_eq_some (h : projectNameChars? text ending = some rest) :
    rest ≠ [] ∧ rest.any isSeparator = false := by
  unfold projectNameChars? at h
  dsimp only at h
  split at h
  · split at h
    · cases h
    · next given nonempty =>
      refine ⟨?_, ?_⟩
      · rintro rfl
        exact nonempty h
      · rw [List.any_eq_false]
        intro c hc
        have hm : c ∈ lastSegment (normalize text) := by
          rw [dropEnding?_eq_some h]
          exact List.mem_append_left _ hc
        simp [not_separator_of_mem_lastSegment hm]
  · cases h

theorem projectName?_eq_some (h : projectName? location extension = some name) :
    name.isEmpty = false ∧ name.toList.any isSeparator = false := by
  obtain ⟨chars, hc, rfl⟩ := Option.map_eq_some_iff.1 h
  obtain ⟨nonempty, separators⟩ := projectNameChars?_eq_some hc
  refine ⟨?_, by simpa using separators⟩
  rw [Bool.eq_false_iff, Ne, String.isEmpty_iff]
  intro he
  exact nonempty (by simpa using congrArg String.toList he)

theorem refersTo_iff :
    refersTo location name extension = true ↔
      projectName? location extension = some (Text.trim name) := by
  simp only [refersTo, Bool.and_eq_true, Bool.not_eq_true', beq_iff_eq]
  constructor
  · exact fun h => h.2
  · exact fun h => ⟨projectName?_eq_some h, h⟩

/-- A location is taken to name its own project unless there are blanks around the name. -/
theorem refersTo_own_iff (h : projectName? location extension = some name) :
    refersTo location name extension = true ↔ Text.trim name = name := by
  rw [refersTo_iff, h, Option.some_inj]
  exact eq_comm

/-- A location is taken to name the project that is called so without the blanks around it. That is
the name itself exactly if there are no such blanks, or the location names neither of the two. -/
theorem refersTo_literal_iff (location name extension : String) :
    (refersTo location name extension = true ↔
        projectName? location extension = some (Text.trim name)) ∧
      ((refersTo location name extension = true ↔ projectName? location extension = some name) ↔
        Text.Bare name.toList ∨
          projectName? location extension ≠ some name ∧
            projectName? location extension ≠ some (Text.trim name)) := by
  refine ⟨refersTo_iff, ?_⟩
  rw [refersTo_iff, ← Text.trim_eq_self_iff]
  by_cases bare : Text.trim name = name
  · simp [bare]
  · have apart : projectName? location extension = some (Text.trim name) →
        projectName? location extension ≠ some name := fun h same =>
      bare (Option.some.inj (h.symm.trans same))
    constructor
    · intro literal
      refine .inr ⟨fun named => ?_, fun named => ?_⟩
      · exact apart (literal.2 named) named
      · exact apart named (literal.1 named)
    · rintro (same | ⟨other, not_trimmed⟩)
      · exact absurd same bare
      · exact iff_of_false not_trimmed other

/-- A location that is not taken to name its own project, because there is a blank before the name,
and one that is taken to name a project by another name. -/
theorem refersTo_not_literal :
    ¬ (refersTo "https://host/ foo.git" " foo" ".git" = true ↔
        projectName? "https://host/ foo.git" ".git" = some " foo") ∧
      ¬ (refersTo "https://host/foo.git" "foo " ".git" = true ↔
        projectName? "https://host/foo.git" ".git" = some "foo ") := by
  decide

end ProjectPicker.Location
