import Mathlib.Data.List.Basic
import ProjectPicker.Proofs.Location
import ProjectPicker.Proofs.Text.Trim

/-!
# How a location is written that names a project

* `Stripped` : a location without the blanks around it, and then without the slashes at its end.
  There is exactly one (`stripped_iff`);
* `LastSegment` : what stands after the last separator. `Location.lastSegment` finds it if there is
  a separator (`lastSegment_iff`);
* `Spells`, `Nameless` : a path that names a project, and one that names none;
* `projectName?_grammar` : these are exactly the paths that give a name, and that give none.
-/

set_option autoImplicit false

namespace ProjectPicker.Location

variable {text path last name ending : List Char} {c : Char}

/-! ## Stripping -/

/-- What is left of a text without the blanks around it, and then without the slashes at its
end. -/
def Stripped (text path : List Char) : Prop :=
  (∃ lead slashes trail, text = lead ++ (path ++ slashes) ++ trail ∧
    (∀ c ∈ lead, Text.isBlank c = true) ∧ (∀ c ∈ trail, Text.isBlank c = true) ∧
    Text.Bare (path ++ slashes) ∧ ∀ c ∈ slashes, c = '/') ∧
  path.getLast? ≠ some '/'

theorem stripped_iff : Stripped text path ↔ path = normalize text := by
  rw [eq_comm, normalize, Text.dropTrailing_eq_iff]
  constructor
  · rintro ⟨⟨lead, slashes, trail, h, before, after, bare, dropped⟩, ends⟩
    refine ⟨fun c hc => ?_, slashes, fun c hc => beq_iff_eq.2 (dropped c hc), ?_⟩
    · exact beq_false_of_ne fun slash => ends (slash ▸ Option.mem_def.1 hc)
    · exact Text.trimChars_eq_iff.2 ⟨bare, lead, trail, before, after, h⟩
  · rintro ⟨ends, slashes, dropped, h⟩
    obtain ⟨bare, lead, trail, before, after, h⟩ := Text.trimChars_eq_iff.1 h
    refine ⟨⟨lead, slashes, trail, h, before, after, bare, fun c hc => ?_⟩, fun slash => ?_⟩
    · exact eq_of_beq (dropped c hc)
    · cases ends '/' slash

/-! ## The last segment -/

def Plain (cs : List Char) : Prop := '/' ∉ cs ∧ ':' ∉ cs

theorem plain_iff {cs : List Char} : Plain cs ↔ ∀ c ∈ cs, isSeparator c = false := by
  constructor
  · rintro ⟨slash, colon⟩ c hc
    have not_slash : c ≠ '/' := fun h => slash (h ▸ hc)
    have not_colon : c ≠ ':' := fun h => colon (h ▸ hc)
    simp [isSeparator, not_slash, not_colon]
  · intro plain
    refine ⟨fun slash => ?_, fun colon => ?_⟩
    · exact absurd (plain _ slash) (by decide)
    · exact absurd (plain _ colon) (by decide)

theorem not_plain_iff {cs : List Char} : ¬ Plain cs ↔ cs.any isSeparator = true := by
  rw [plain_iff, List.any_eq_true]
  simp

theorem isSeparator_iff : isSeparator c = true ↔ c = '/' ∨ c = ':' := by
  simp [isSeparator]

/-- `last` stands after the last separator of a path. -/
def LastSegment (path last : List Char) : Prop :=
  (∃ before c, (c = '/' ∨ c = ':') ∧ path = before ++ c :: last) ∧ Plain last

/-- A path with a separator has exactly one last segment, and a path without has none. -/
theorem lastSegment_iff :
    LastSegment path last ↔ path.any isSeparator = true ∧ lastSegment path = last := by
  constructor
  · rintro ⟨⟨before, c, hc, rfl⟩, plain⟩
    have separator := isSeparator_iff.2 hc
    refine ⟨by simp [separator], ?_⟩
    have kept : ∀ d ∈ last.reverse, (!isSeparator d) = true := fun d hd => by
      rw [plain_iff.1 plain d (List.mem_reverse.1 hd)]
      rfl
    rw [lastSegment, List.reverse_append, List.reverse_cons, List.append_assoc,
      List.takeWhile_append_of_pos kept, List.singleton_append,
      List.takeWhile_cons_of_neg (by simp [separator]), List.append_nil, List.reverse_reverse]
  · rintro ⟨some_separator, rfl⟩
    refine ⟨?_, plain_iff.2 fun c => not_separator_of_mem_lastSegment⟩
    -- From the right: what stops the segment is the separator before it.
    have stopped : path.reverse.dropWhile (fun c => !isSeparator c) ≠ [] := by
      rw [Ne, List.dropWhile_eq_nil_iff]
      simpa using some_separator
    obtain ⟨c, before, h⟩ := List.exists_cons_of_ne_nil stopped
    have separator : isSeparator c = true := by
      have head := (Text.dropWhile_eq_iff.1 h).1 c rfl
      simpa using head
    refine ⟨before.reverse, c, isSeparator_iff.1 separator, ?_⟩
    calc path = (path.reverse.takeWhile (fun c => !isSeparator c) ++ c :: before).reverse := by
          rw [← h, List.takeWhile_append_dropWhile, List.reverse_reverse]
      _ = before.reverse ++ c :: lastSegment path := by
          rw [List.reverse_append, List.reverse_cons, List.append_assoc, lastSegment]
          rfl

/-! ## Names -/

/-- A path that ends in the name of a project with the ending, after a separator. -/
structure Spells (path name ending : List Char) : Prop where
  written : ∃ before c, (c = '/' ∨ c = ':') ∧ path = before ++ c :: (name ++ ending)
  nonempty : name ≠ []
  name_plain : Plain name
  ending_plain : Plain ending

/-- A path that names no project: it has no separator, or its last segment has not the ending, or
is nothing but the ending. -/
inductive Nameless (path ending : List Char) : Prop
  | single (plain : Plain path)
  | foreign {last : List Char} (segment : LastSegment path last) (other : ¬ ending <:+ last)
  | bare (segment : LastSegment path ending)

theorem spells_iff :
    Spells path name ending ↔ name ≠ [] ∧ LastSegment path (name ++ ending) := by
  have plain_append : Plain (name ++ ending) ↔ Plain name ∧ Plain ending := by
    simp only [plain_iff, List.forall_mem_append]
  constructor
  · rintro ⟨written, nonempty, name_plain, ending_plain⟩
    exact ⟨nonempty, written, plain_append.2 ⟨name_plain, ending_plain⟩⟩
  · rintro ⟨nonempty, written, plain⟩
    obtain ⟨name_plain, ending_plain⟩ := plain_append.1 plain
    exact ⟨written, nonempty, name_plain, ending_plain⟩

theorem dropEnding?_eq_some_iff :
    dropEnding? text ending = some name ↔ text = name ++ ending := by
  refine ⟨dropEnding?_eq_some, ?_⟩
  rintro rfl
  have stem : ending.reverse.isPrefixOf? (name ++ ending).reverse = some name.reverse := by
    rw [List.isPrefixOf?_eq_some_iff_append_eq, List.reverse_append]
  rw [dropEnding?, stem, Option.map_some, List.reverse_reverse]

theorem projectNameChars?_eq_some_iff :
    projectNameChars? text ending = some name ↔ Spells (normalize text) name ending := by
  rw [spells_iff, lastSegment_iff, projectNameChars?]
  by_cases separated : (normalize text).any isSeparator = true
  · rw [if_pos separated]
    simp only [separated, true_and, ← dropEnding?_eq_some_iff]
    cases dropEnding? (lastSegment (normalize text)) ending with
    | none => simp
    | some given =>
      cases given with
      | nil => simp [eq_comm]
      | cons c rest =>
        simp only [Option.some.injEq]
        refine ⟨?_, fun h => h.2⟩
        rintro rfl
        exact ⟨List.cons_ne_nil _ _, rfl⟩
  · rw [if_neg separated]
    simp [separated]

/-- Every path names a project or none, and which one is told by its last segment. -/
theorem nameless_iff : Nameless path ending ↔ ∀ name, ¬ Spells path name ending := by
  constructor
  · intro nameless name spells
    obtain ⟨nonempty, segment⟩ := spells_iff.1 spells
    obtain ⟨separated, found⟩ := lastSegment_iff.1 segment
    cases nameless with
    | single plain => exact not_plain_iff.2 separated plain
    | foreign other_segment other =>
      obtain ⟨-, rfl⟩ := lastSegment_iff.1 other_segment
      exact other ⟨name, found.symm⟩
    | bare other_segment =>
      have only : name ++ ending = ending := found.symm.trans (lastSegment_iff.1 other_segment).2
      exact nonempty (List.append_left_eq_self.1 only)
  · intro none_spelt
    by_cases plain : Plain path
    · exact .single plain
    · have segment := lastSegment_iff.2 ⟨not_plain_iff.1 plain, rfl⟩
      by_cases suffix : ending <:+ lastSegment path
      · obtain ⟨name, found⟩ := suffix
        rw [← found] at segment
        cases name with
        | nil => exact .bare segment
        | cons c rest =>
          exact absurd (spells_iff.2 ⟨List.cons_ne_nil c rest, segment⟩) (none_spelt _)
      · exact .foreign segment suffix

/-- A location is read as its one stripped path. It gives a name exactly if that path ends in the
name with the extension, after a separator, and neither of them holds a separator; it gives none
exactly if the path has no separator, or its last segment has not the extension, or is nothing
else. -/
theorem projectName?_grammar (location extension : String) :
    ∃ path, (∀ other, Stripped location.toList other ↔ other = path) ∧
      (∀ name, projectName? location extension = some name ↔
        Spells path name.toList extension.toList) ∧
      (projectName? location extension = none ↔ Nameless path extension.toList) := by
  have spelt (name : String) : projectName? location extension = some name ↔
      Spells (normalize location.toList) name.toList extension.toList := by
    rw [← projectNameChars?_eq_some_iff, projectName?, Option.map_eq_some_iff]
    constructor
    · rintro ⟨chars, found, rfl⟩
      rwa [String.toList_ofList]
    · intro found
      exact ⟨name.toList, found, String.ofList_toList⟩
  refine ⟨normalize location.toList, fun other => stripped_iff, spelt, ?_⟩
  rw [Option.eq_none_iff_forall_ne_some, nameless_iff]
  constructor
  · intro never name spells
    refine never (String.ofList name) ((spelt _).2 ?_)
    rwa [String.toList_ofList]
  · exact fun never name found => never name.toList ((spelt name).1 found)

/-- Blanks after the slashes at the end are dropped; blanks before them hide the extension. -/
example : projectName? "host/a.git/ " ".git" = some "a" ∧
    projectName? "host/a.git /" ".git" = none := by
  decide

end ProjectPicker.Location
