import ProjectPicker.Proofs.Template
import ProjectPicker.Proofs.Text.LowerCase

/-!
# Tags in any case

* `lowerTags_recased` : tags that are spelt otherwise are the same in lower case;
* `hasTag_lowerTags_iff` : a template matches a stack if two of their tags are the same in lower
  case;
* `tag_match_caseless` : so it does not matter how the tags of either are spelt, and tags that are
  in lower case already stay as they are.
-/

set_option autoImplicit false

namespace ProjectPicker

variable {tags tags' stackTags : List String} {t t' : Template}

theorem lowerTags_lowerTags (tags : List String) : lowerTags (lowerTags tags) = lowerTags tags := by
  rw [lowerTags, lowerTags, List.map_map]
  exact List.map_congr_left fun tag _ => Text.lower_lower tag

theorem lowerTags_recased (h : List.Forall₂ Text.Recased tags tags') :
    lowerTags tags' = lowerTags tags := by
  unfold lowerTags
  induction h with
  | nil => rfl
  | cons same _ ih => rw [List.map_cons, List.map_cons, same.lower_eq, ih]

namespace Template

theorem hasTag_congr (same : lowerTags t'.tags = lowerTags t.tags) :
    t'.hasTag stackTags = t.hasTag stackTags := by
  rw [hasTag, hasTag, same]

theorem hasTag_lowerTags_iff : t.hasTag (lowerTags stackTags) = true ↔
    ∃ tag ∈ t.tags, ∃ stackTag ∈ stackTags, Text.lower tag = Text.lower stackTag := by
  rw [hasTag_iff, Carries]
  simp only [lowerTags, List.mem_map, eq_comm]

/-- Tags in lower case stay as they are. A template matches the lower-case tags of a stack exactly
if a tag of it and one of the stack have the same lower case. So it matches them still, or still
does not, when any of its tags and of the stack's are put into lower case, or have the case of any
of their ASCII letters changed. -/
theorem tag_match_caseless (t : Template) (stackTags : List String) :
    lowerTags (lowerTags stackTags) = lowerTags stackTags ∧
      (t.hasTag (lowerTags stackTags) = true ↔
        ∃ tag ∈ t.tags, ∃ stackTag ∈ stackTags, Text.lower tag = Text.lower stackTag) ∧
      ∀ tags' stackTags', List.Forall₂ Text.Recased t.tags tags' →
        List.Forall₂ Text.Recased stackTags stackTags' →
        ({ t with tags := tags' } : Template).hasTag (lowerTags stackTags') =
          t.hasTag (lowerTags stackTags) := by
  refine ⟨lowerTags_lowerTags stackTags, hasTag_lowerTags_iff, ?_⟩
  intro tags' stackTags' own others
  have same : lowerTags tags' = lowerTags t.tags := lowerTags_recased own
  rw [lowerTags_recased others]
  exact hasTag_congr same

/-- The template and the stack share a tag that ends in a sigma, which lower case writes in its
final form. Afterwards both have it in lower case, and `Java` is spelt in a third way. -/
theorem tag_match_caseless_sigma :
    let t : Template := { name := "a", tags := ["ΟΔΥΣΣΕΥΣ", "Java"] }
    List.Forall₂ Text.Recased t.tags ["οδυσσευς", "jAVA"] ∧
      List.Forall₂ Text.Recased ["x", "οδΥΣΣΕΥΣ"] ["x", "οδυσσευς"] ∧
      ({ t with tags := ["οδυσσευς", "jAVA"] } : Template).hasTag (lowerTags ["x", "οδυσσευς"]) =
        t.hasTag (lowerTags ["x", "οδΥΣΣΕΥΣ"]) ∧
      t.hasTag (lowerTags ["x", "οδΥΣΣΕΥΣ"]) = true := by
  intro t
  have lowered : Text.lower "ΟΔΥΣΣΕΥΣ" = "οδυσσευς" ∧ Text.lower "οδΥΣΣΕΥΣ" = "οδυσσευς" := by
    decide +kernel
  have letters : List.Forall₂ Text.SameLetter "Java".toList "jAVA".toList := by
    decide +kernel
  have own : List.Forall₂ Text.Recased t.tags ["οδυσσευς", "jAVA"] :=
    .cons (lowered.1 ▸ .lowered) (.cons (.letters letters) .nil)
  have others : List.Forall₂ Text.Recased ["x", "οδΥΣΣΕΥΣ"] ["x", "οδυσσευς"] :=
    .cons (.refl "x") (.cons (lowered.2 ▸ .lowered) .nil)
  refine ⟨own, others, (tag_match_caseless t _).2.2 _ _ own others, ?_⟩
  exact (tag_match_caseless t _).2.1.2
    ⟨"ΟΔΥΣΣΕΥΣ", by simp [t], "οδΥΣΣΕΥΣ", by simp, lowered.1.trans lowered.2.symm⟩

end Template

end ProjectPicker
