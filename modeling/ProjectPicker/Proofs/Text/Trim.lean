import Mathlib.Data.List.Basic
import Mathlib.Data.List.TakeWhile
import ProjectPicker.Text.Blank

/-!
# What trimming leaves

* `dropWhile_eq_iff`, `dropTrailing_eq_iff` : what is dropped at one end has the property, and what
  is left does not go on with it;
* `Text.Bare` : a text that neither begins nor ends with a blank;
* `trimChars_eq_iff` : trimming leaves the bare text that stands between blanks;
* `trim_eq_self_iff` : so it changes nothing exactly if the text is bare;
* `isEmpty_trim` : it leaves nothing exactly of a blank text.
-/

set_option autoImplicit false

namespace ProjectPicker.Text

variable {p : Char → Bool} {cs rest core : List Char} {s : String}

theorem dropWhile_eq_iff :
    cs.dropWhile p = rest ↔
      (∀ c ∈ rest.head?, p c = false) ∧ ∃ lead, (∀ c ∈ lead, p c = true) ∧ cs = lead ++ rest := by
  constructor
  · rintro rfl
    refine ⟨fun c hc => ?_, cs.takeWhile p, fun c => List.mem_takeWhile_imp, ?_⟩
    · have stops := List.head?_dropWhile_not p cs
      rw [Option.mem_def.1 hc] at stops
      simpa using stops
    · exact List.takeWhile_append_dropWhile.symm
  · rintro ⟨stops, lead, dropped, rfl⟩
    rw [List.dropWhile_append_of_pos dropped]
    cases rest with
    | nil => rfl
    | cons c rest => rw [List.dropWhile_cons_of_neg (by simp [stops c rfl])]

theorem dropTrailing_eq_iff :
    dropTrailing p cs = core ↔
      (∀ c ∈ core.getLast?, p c = false) ∧
        ∃ trail, (∀ c ∈ trail, p c = true) ∧ cs = core ++ trail := by
  rw [dropTrailing, List.reverse_eq_iff, dropWhile_eq_iff, List.head?_reverse]
  refine and_congr_right fun _ => ⟨?_, ?_⟩
  · rintro ⟨lead, dropped, h⟩
    refine ⟨lead.reverse, fun c hc => dropped c (List.mem_reverse.1 hc), ?_⟩
    rw [← List.reverse_reverse cs, h, List.reverse_append, List.reverse_reverse]
  · rintro ⟨trail, dropped, rfl⟩
    exact ⟨trail.reverse, fun c hc => dropped c (List.mem_reverse.1 hc), List.reverse_append⟩

/-- Neither the first nor the last character is blank. -/
def Bare (cs : List Char) : Prop :=
  (∀ c ∈ cs.head?, isBlank c = false) ∧ ∀ c ∈ cs.getLast?, isBlank c = false

/-- Trimming leaves the bare text that stands between blanks. -/
theorem trimChars_eq_iff :
    trimChars cs = core ↔
      Bare core ∧ ∃ lead trail, (∀ c ∈ lead, isBlank c = true) ∧
        (∀ c ∈ trail, isBlank c = true) ∧ cs = lead ++ core ++ trail := by
  rw [trimChars, dropTrailing_eq_iff]
  constructor
  · rintro ⟨last, trail, after, h⟩
    obtain ⟨first, lead, before, rfl⟩ := dropWhile_eq_iff.1 h
    refine ⟨⟨fun c hc => first c ?_, last⟩, lead, trail, before, after, ?_⟩
    · rw [List.head?_append, Option.mem_def.1 hc, Option.some_or]
      rfl
    · rw [List.append_assoc]
  · rintro ⟨⟨first, last⟩, lead, trail, before, after, rfl⟩
    -- If nothing is left, the blanks at the end were dropped together with those before them.
    cases core with
    | nil =>
      refine ⟨last, [], by simp, dropWhile_eq_iff.2 ⟨by simp, lead ++ trail, ?_, by simp⟩⟩
      exact fun c hc => (List.mem_append.1 hc).elim (before c) (after c)
    | cons c core =>
      exact ⟨last, trail, after,
        dropWhile_eq_iff.2 ⟨first, lead, before, List.append_assoc ..⟩⟩

theorem trimChars_eq_self_iff : trimChars cs = cs ↔ Bare cs := by
  rw [trimChars_eq_iff]
  constructor
  · exact fun h => h.1
  · exact fun bare => ⟨bare, [], [], by simp⟩

theorem trim_eq_self_iff : trim s = s ↔ Bare s.toList := by
  rw [trim, ← trimChars_eq_self_iff, ← String.toList_inj, String.toList_ofList]

theorem isEmpty_trim (s : String) : (trim s).isEmpty = isBlankText s := by
  rw [trim, isBlankText, Bool.eq_iff_iff, String.isEmpty_iff, ← String.toList_inj,
    String.toList_ofList, List.isEmpty_iff]
  rfl

end ProjectPicker.Text
