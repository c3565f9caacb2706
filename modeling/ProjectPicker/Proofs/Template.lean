import Mathlib.Data.List.Basic
import ProjectPicker.Template

/-!
# The order in which templates are listed

* `Template.key`, `KeyLe` : what templates are listed by, and its order;
* `StablySorted` : in order, and those of one key as they were before;
* `StablySorted.filter` : leaving templates out does not disturb that;
* `stablySorted_iff` : there is only one such list, and sorting finds it;
* `hasTag_iff`, `hasTag_eq` : whether a template carries one of the tags of a stack.
-/

set_option autoImplicit false

namespace ProjectPicker.Template

variable {a b c : Template} {templates sorted other : List Template}

/-- What templates are listed by: the project type, and then the display name. -/
def key (t : Template) : String × String := (t.projectType, t.displayName)

def KeyLe (a b : Template) : Prop :=
  a.projectType < b.projectType ∨ a.projectType = b.projectType ∧ a.displayName ≤ b.displayName

theorem precedes_iff : precedes a b = true ↔ KeyLe a b := by
  simp [precedes, KeyLe]

theorem KeyLe.trans (h : KeyLe a b) (h' : KeyLe b c) : KeyLe a c := by
  rcases h with lt | ⟨eq, le⟩ <;> rcases h' with lt' | ⟨eq', le'⟩
  · exact .inl (String.lt_trans lt lt')
  · exact .inl (eq' ▸ lt)
  · exact .inl (eq ▸ lt')
  · exact .inr ⟨eq.trans eq', String.le_trans le le'⟩

theorem KeyLe.total (a b : Template) : KeyLe a b ∨ KeyLe b a := by
  by_cases lt : a.projectType < b.projectType
  · exact .inl (.inl lt)
  · by_cases gt : b.projectType < a.projectType
    · exact .inr (.inl gt)
    · have same : a.projectType = b.projectType :=
        String.le_antisymm (String.not_lt.1 gt) (String.not_lt.1 lt)
      exact (String.le_total a.displayName b.displayName).imp (fun le => .inr ⟨same, le⟩)
        fun ge => .inr ⟨same.symm, ge⟩

theorem keyLe_of_key_eq (h : a.key = b.key) : KeyLe a b := by
  obtain ⟨type, name⟩ := Prod.mk.inj h
  exact .inr ⟨type, name ▸ String.le_refl _⟩

theorem KeyLe.antisymm (h : KeyLe a b) (h' : KeyLe b a) : a.key = b.key := by
  rcases h with lt | ⟨eq, le⟩ <;> rcases h' with lt' | ⟨eq', le'⟩
  · exact absurd lt' (String.lt_asymm lt)
  · exact absurd (eq' ▸ lt) (String.lt_irrefl _)
  · exact absurd (eq ▸ lt') (String.lt_irrefl _)
  · exact Prod.ext eq (String.le_antisymm le le')

theorem mem_iff_of_keys (same : ∀ key, sorted.filter (·.key == key) = other.filter (·.key == key)) :
    a ∈ sorted ↔ a ∈ other := by
  have here : a ∈ sorted.filter (·.key == a.key) ↔ a ∈ other.filter (·.key == a.key) := by
    rw [same]
  simpa using here

theorem eq_of_ordered (ordered : sorted.Pairwise KeyLe) (ordered' : other.Pairwise KeyLe)
    (same : ∀ key, sorted.filter (·.key == key) = other.filter (·.key == key)) :
    sorted = other := by
  induction sorted generalizing other with
  | nil =>
    exact (List.eq_nil_iff_forall_not_mem.2 fun t ht => by
      simpa using (mem_iff_of_keys same).2 ht).symm
  | cons t rest ih =>
    cases other with
    | nil => exact absurd ((mem_iff_of_keys same).1 List.mem_cons_self) (by simp)
    | cons u rest' =>
      have tu : KeyLe t u := by
        rcases List.mem_cons.1 ((mem_iff_of_keys same).2 List.mem_cons_self) with rfl | hu
        · exact keyLe_of_key_eq rfl
        · exact (List.pairwise_cons.1 ordered).1 u hu
      have ut : KeyLe u t := by
        rcases List.mem_cons.1 ((mem_iff_of_keys same).1 List.mem_cons_self) with rfl | ht
        · exact keyLe_of_key_eq rfl
        · exact (List.pairwise_cons.1 ordered').1 t ht
      have first := same t.key
      rw [List.filter_cons_of_pos (by simp), List.filter_cons_of_pos (by simp [ut.antisymm tu])]
        at first
      obtain ⟨rfl, -⟩ := List.cons.inj first
      have same' : ∀ key, rest.filter (·.key == key) = rest'.filter (·.key == key) := by
        intro key
        have := same key
        simp only [List.filter_cons] at this
        split at this
        · exact (List.cons.inj this).2
        · exact this
      rw [ih ordered.of_cons ordered'.of_cons same']

/-- `sorted` is `templates` in the order of the keys, where those of one key have kept their
order. -/
structure StablySorted (templates sorted : List Template) : Prop where
  ordered : sorted.Pairwise KeyLe
  stable : ∀ key, sorted.filter (·.key == key) = templates.filter (·.key == key)

theorem StablySorted.filter (h : StablySorted templates sorted) (p : Template → Bool) :
    StablySorted (templates.filter p) (sorted.filter p) where
  ordered := h.ordered.filter p
  stable key := by
    rw [List.filter_comm, h.stable, List.filter_comm]

theorem StablySorted.unique (h : StablySorted templates sorted)
    (h' : StablySorted templates other) : sorted = other :=
  eq_of_ordered h.ordered h'.ordered fun key => (h.stable key).trans (h'.stable key).symm

/-! ## Sorting -/

theorem stablySorted_sort (templates : List Template) :
    StablySorted templates (sort templates) := by
  have trans : ∀ a b c : Template, precedes a b = true → precedes b c = true →
      precedes a c = true := by
    simp only [precedes_iff]
    exact fun a b c => KeyLe.trans
  have total : ∀ a b : Template, (precedes a b || precedes b a) = true := by
    simp only [Bool.or_eq_true, precedes_iff]
    exact KeyLe.total
  refine ⟨?_, fun key => ?_⟩
  · exact (List.pairwise_mergeSort trans total templates).imp precedes_iff.1
  · -- Templates of one key are in order already, so sorting keeps them as they are.
    have tied : (templates.filter (·.key == key)).Pairwise fun a b => precedes a b = true := by
      refine List.pairwise_of_forall_mem_list fun a ha b hb => precedes_iff.2 (keyLe_of_key_eq ?_)
      rw [eq_of_beq (List.mem_filter.1 ha).2, eq_of_beq (List.mem_filter.1 hb).2]
    have kept := (List.sublist_mergeSort trans total tied List.filter_sublist).filter (·.key == key)
    rw [List.filter_filter] at kept
    simp only [Bool.and_self] at kept
    have all := ((List.mergeSort_perm templates precedes).filter (·.key == key)).length_eq
    exact (kept.eq_of_length all.symm).symm

theorem stablySorted_iff : StablySorted templates sorted ↔ sorted = sort templates := by
  constructor
  · exact fun h => h.unique (stablySorted_sort templates)
  · rintro rfl
    exact stablySorted_sort templates

theorem StablySorted.perm (h : StablySorted templates sorted) : sorted.Perm templates := by
  rw [stablySorted_iff.1 h]
  exact List.mergeSort_perm templates precedes

def Carries (t : Template) (stackTags : List String) : Prop :=
  ∃ tag ∈ t.tags, Text.lower tag ∈ stackTags

instance (t : Template) (stackTags : List String) : Decidable (t.Carries stackTags) :=
  inferInstanceAs (Decidable (∃ tag ∈ t.tags, Text.lower tag ∈ stackTags))

theorem filter_carries_nil (templates : List Template) :
    (templates.filter fun t => t.Carries []) = [] :=
  List.filter_eq_nil_iff.2 fun _ _ carries => by simpa [Carries] using of_decide_eq_true carries

theorem hasTag_iff {t : Template} {stackTags : List String} :
    t.hasTag stackTags = true ↔ t.Carries stackTags := by
  simp [hasTag, lowerTags, Carries]

theorem hasTag_eq (t : Template) (stackTags : List String) :
    t.hasTag stackTags = decide (t.Carries stackTags) := by
  rw [Bool.eq_iff_iff, hasTag_iff, decide_eq_true_iff]

end ProjectPicker.Template
