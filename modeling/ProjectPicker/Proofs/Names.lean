import Mathlib.Data.List.TakeWhile
import ProjectPicker.Catalogue
import ProjectPicker.Editor
import ProjectPicker.Location

/-!
# Which projects have names

* `Text.isBlankText_iff` : a text is blank if all its characters are;
* `Template.Named` : the name of a template is more than blanks. So it is if it may be saved
  (`named_of_valid`), and if it is listed in a catalogue (`Fetched.named`);
* `Template.BlankImport` : what is imported from a location may have a name of blanks only.
-/

set_option autoImplicit false

namespace ProjectPicker

namespace Text

theorem dropTrailing_eq_nil {p : Char → Bool} {cs : List Char} :
    dropTrailing p cs = [] ↔ ∀ c ∈ cs, p c = true := by
  rw [dropTrailing, List.reverse_eq_nil_iff, List.dropWhile_eq_nil_iff]
  simp

/-- A text is blank exactly if all its characters are. -/
theorem isBlankText_iff {s : String} :
    isBlankText s = true ↔ ∀ c ∈ s.toList, isBlank c = true := by
  rw [isBlankText, List.isEmpty_iff, trimChars, dropTrailing_eq_nil]
  constructor
  · intro rest c hc
    rw [← List.takeWhile_append_dropWhile (p := isBlank) (l := s.toList)] at hc
    obtain first | later := List.mem_append.1 hc
    · exact List.mem_takeWhile_imp first
    · exact rest c later
  · exact fun all c hc => all c ((List.dropWhile_sublist _).subset hc)

end Text

theorem ProjectName.not_isBlank {c : Char} (h : isAllowed c = true) : Text.isBlank c = false := by
  have point : (48 ≤ c.toNat ∧ c.toNat ≤ 57) ∨ (65 ≤ c.toNat ∧ c.toNat ≤ 90) ∨
      (97 ≤ c.toNat ∧ c.toNat ≤ 122) ∨ c.toNat = 95 ∨ c.toNat = 45 ∨ c.toNat = 46 := by
    unfold isAllowed Char.isAlphanum Char.isAlpha Char.isUpper Char.isLower Char.isDigit at h
    simp only [Bool.or_eq_true, Bool.and_eq_true, decide_eq_true_eq, beq_iff_eq] at h
    rcases h with ((((⟨low, high⟩ | ⟨low, high⟩) | ⟨low, high⟩) | rfl) | rfl) | rfl
    · exact .inr (.inl ⟨low, high⟩)
    · exact .inr (.inr (.inl ⟨low, high⟩))
    · exact .inl ⟨low, high⟩
    · decide
    · decide
    · decide
  rw [Bool.eq_false_iff, Ne, Text.isBlank, Text.CodePoints.contains_iff]
  rintro ⟨i, hi, low, high⟩
  simp only [Text.blanks, List.mem_cons, List.not_mem_nil, or_false] at hi
  obtain rfl | rfl | rfl | rfl | rfl | rfl | rfl | rfl | rfl | rfl := hi
  all_goals
    dsimp only at low high
    omega

namespace Template

variable {t : Template}

/-- The name of a template is more than blanks. -/
def Named (t : Template) : Prop := Text.isBlankText t.name = false

instance (t : Template) : Decidable t.Named :=
  inferInstanceAs (Decidable (Text.isBlankText t.name = false))

/-- The template of a Git or Zip location whose project has a blank name. -/
def BlankImport (t : Template) : Prop :=
  ¬ t.Named ∧ ∃ location, Location.gitTemplate? location = some t ∨
    ∃ skip, Location.zipTemplate? location skip = some t

theorem named_of_valid (valid : ProjectName.isValid t.name = true) : t.Named := by
  simp only [ProjectName.isValid, Bool.and_eq_true, List.all_eq_true, Bool.not_eq_true'] at valid
  obtain ⟨⟨nonempty, -⟩, allowed⟩ := valid
  rw [Named, Bool.eq_false_iff, Ne, Text.isBlankText_iff]
  intro blank
  obtain ⟨c, hc⟩ : ∃ c, c ∈ t.name.toList := by
    refine List.exists_mem_of_ne_nil _ fun empty => ?_
    rw [String.toList_eq_nil_iff.1 empty] at nonempty
    cases nonempty
  have never := ProjectName.not_isBlank (allowed c hc)
  rw [blank c hc] at never
  cases never

end Template

namespace Catalogue

variable {origin text : String} {catalogue : List Template}
  {fetched : Except CatalogueError (List Template)}

/-- What comes of fetching a catalogue from a file or from a web server. -/
inductive Fetched : Except CatalogueError (List Template) → Prop
  | file (path : String) (octets : Except FileError (List UInt8)) : Fetched (ofFile path octets)
  | reply (url : Url) (reply : Reply) : Fetched (ofReply url reply)

theorem named_of_parse (h : parse origin text = .ok catalogue) : ∀ t ∈ catalogue, t.Named := by
  unfold parse at h
  split at h
  · cases h
  · split at h
    · cases h
    · next none_blank =>
      cases h
      intro t ht
      simpa [Template.Named] using List.findIdx?_eq_none_iff.1 none_blank t ht

/-- All templates of a fetched catalogue have names. -/
theorem Fetched.named (h : Fetched fetched) (ok : fetched = .ok catalogue) :
    ∀ t ∈ catalogue, t.Named := by
  cases h with
  | file path octets =>
    unfold ofFile at ok
    split at ok
    · exact named_of_parse ok
    · cases ok
  | reply url reply =>
    unfold ofReply at ok
    split at ok
    · cases ok
    · dsimp only at ok
      split at ok
      · exact named_of_parse ok
      · cases ok

end Catalogue

end ProjectPicker
