import Mathlib.Data.List.Count
import Mathlib.Data.List.Perm.Basic
import Mathlib.Logic.Equiv.Defs
import Mathlib.Logic.Function.Basic
import ProjectPicker.Form.Json
import ProjectPicker.Proofs.Json.Reading

/-!
# Reading the fields of a record

* `Complete` : a value whose text is JSON throughout. It may always be passed over (`skip_eq_ok`);
* `Once`, `Holds`, `Gives` : a name occurs at most once, a field is what the members say about it,
  and a value is that field or its default;
* `After` : a field before and after members. It changes with the members of its name only
  (`after_cons_same`, `after_cons_other`);
* `RecordReader` : a reader that meets members one by one, each of which may set one field;
* `RecordReader.foldlM_eq_ok_iff` : so it gets through members exactly if every field gets through
  them;
* `RecordReader.Read` : then each field is what the members say about it;
* `Alike` : objects with the same members of known names, in any order, up to what counts in one of
  the values.
-/

set_option autoImplicit false

namespace ProjectPicker.Json

/-! ## Values that are passed over -/

/-- A value whose text is JSON throughout. -/
inductive Complete : Json → Prop
  | null : Complete .null
  | bool (b : Bool) : Complete (.bool b)
  | number (integral : Bool) (d : Decimal) : Complete (.number integral d)
  | text (s : Option String) : Complete (.text s)
  | array {items : List Json} : (∀ j ∈ items, Complete j) → Complete (.array items)
  | object {members : List (Json × Json)} : (∀ m ∈ members, ∃ s, m.1 = .text s) →
    (∀ m ∈ members, Complete m.2) → Complete (.object members)

theorem skipItems_eq_ok {items : List Json} (h : ∀ j ∈ items, skip j = .ok ()) :
    skipItems items = .ok () := by
  induction items with
  | nil => rfl
  | cons j items ih =>
    obtain ⟨first, others⟩ := List.forall_mem_cons.1 h
    rw [skipItems, first]
    exact ih others

theorem skipMembers_eq_ok {members : List (Json × Json)} (named : ∀ m ∈ members, ∃ s, m.1 = .text s)
    (h : ∀ m ∈ members, skip m.2 = .ok ()) : skipMembers members = .ok () := by
  induction members with
  | nil => rfl
  | cons m members ih =>
    obtain ⟨key, j⟩ := m
    obtain ⟨⟨s, text⟩, names⟩ := List.forall_mem_cons.1 named
    obtain ⟨first, others⟩ := List.forall_mem_cons.1 h
    obtain rfl : key = .text s := text
    rw [skipMembers, first]
    exact ih names others

theorem Complete.skip_eq_ok {j : Json} (h : Complete j) : skip j = .ok () := by
  induction h with
  | null => rfl
  | bool b => rfl
  | number integral d => rfl
  | text s => rfl
  | array _ ih => exact skipItems_eq_ok ih
  | object named _ ih => exact skipMembers_eq_ok named ih

theorem Numberless.complete {j : Json} (h : Numberless j) : Complete j := by
  induction h with
  | null => exact .null
  | bool b => exact .bool b
  | str s => exact .text (some s)
  | array _ ih => exact .array ih
  | object named _ ih =>
    refine .object (fun m hm => ?_) ih
    obtain ⟨name, text⟩ := named m hm
    exact ⟨some name, text⟩

theorem Complete.of_record {members : List (String × Json)} (h : Complete (.record members)) :
    ∀ m ∈ members, Complete m.2 := by
  rw [record] at h
  cases h with
  | object _ values => exact fun m hm => values _ (List.mem_map_of_mem hm)

/-! ## One field -/

theorem bind_eq_ok_iff {α β : Type} {x : Except DecodeError α} {f : α → Except DecodeError β}
    {b : β} : x >>= f = .ok b ↔ ∃ a, x = .ok a ∧ f a = .ok b := by
  cases x with
  | error e => exact ⟨nofun, nofun⟩
  | ok a => exact ⟨fun h => ⟨a, rfl, h⟩, fun ⟨_, same, h⟩ => Except.ok.inj same ▸ h⟩

section Field

variable {α : Type} {name key : String} {read : Json → Except DecodeError α}
  {members : List (String × Json)} {before after : Option α} {j j' : Json}

def Once (members : List (String × Json)) (name : String) : Prop :=
  (members.map Prod.fst).count name ≤ 1

/-- What the members say about a field. -/
def Holds (name : String) (read : Json → Except DecodeError α) (members : List (String × Json)) :
    Option α → Prop
  | some a => ∃ j, (name, j) ∈ members ∧ read j = .ok a
  | none => name ∉ members.map Prod.fst

/-- A field before members and after them: it may be set if it is not yet, and only once. -/
def After (name : String) (read : Json → Except DecodeError α) (members : List (String × Json))
    (before after : Option α) : Prop :=
  match before with
  | none => Once members name ∧ Holds name read members after
  | some a => name ∉ members.map Prod.fst ∧ after = some a

theorem mem_names (h : (name, j) ∈ members) : name ∈ members.map Prod.fst :=
  List.mem_map_of_mem h

theorem Holds.exists_eq_some (h : Holds name read members after) (there : (name, j) ∈ members) :
    ∃ a, after = some a := by
  cases after with
  | none => exact absurd (mem_names there) h
  | some a => exact ⟨a, rfl⟩

theorem once_cons_same : Once ((name, j) :: members) name ↔ name ∉ members.map Prod.fst := by
  rw [Once, List.map_cons, List.count_cons_self, ← List.count_eq_zero]
  omega

theorem once_cons_other (other : key ≠ name) :
    Once ((key, j) :: members) name ↔ Once members name := by
  rw [Once, List.map_cons, List.count_cons_of_ne other, Once]

/-- A name that occurs once has one value. -/
theorem Once.eq (once : Once members name) (h : (name, j) ∈ members) (h' : (name, j') ∈ members) :
    j = j' := by
  induction members with
  | nil => cases h
  | cons m members ih =>
    obtain ⟨key, value⟩ := m
    by_cases same : key = name
    · subst same
      have later := once_cons_same.1 once
      simp only [List.mem_cons, Prod.mk.injEq, true_and] at h h'
      rw [h.resolve_right (later ∘ mem_names), h'.resolve_right (later ∘ mem_names)]
    · simp only [List.mem_cons, Prod.mk.injEq, Ne.symm same, false_and, false_or] at h h'
      exact ih ((once_cons_other same).1 once) h h'

theorem after_nil : After name read [] before after ↔ after = before := by
  cases before <;> cases after <;> simp [After, Once, Holds]

theorem after_cons_other (other : key ≠ name) :
    After name read ((key, j) :: members) before after ↔ After name read members before after := by
  cases before <;> cases after <;> simp [After, once_cons_other, Holds, other, other.symm]

theorem after_cons_same :
    After name read ((name, j) :: members) before after ↔
      before = none ∧ ∃ a, read j = .ok a ∧ After name read members (some a) after := by
  cases before with
  | some a => simp [After]
  | none =>
    simp only [After, once_cons_same, true_and]
    constructor
    · rintro ⟨later, holds⟩
      cases after with
      | none => exact absurd (by simp) holds
      | some a =>
        obtain ⟨j', member, read⟩ := holds
        obtain ⟨-, rfl⟩ | member := by simpa using member
        · exact ⟨a, read, later, rfl⟩
        · exact absurd (mem_names member) later
    · rintro ⟨a, read, later, rfl⟩
      exact ⟨later, j, List.mem_cons_self, read⟩

/-- A name that occurs at most once says something exactly if its value can be read. -/
theorem exists_holds_iff (once : Once members name) :
    (∃ value, Holds name read members value) ↔
      ∀ j, (name, j) ∈ members → ∃ a, read j = .ok a := by
  constructor
  · rintro ⟨value, holds⟩ j member
    cases value with
    | none => exact absurd (mem_names member) holds
    | some a =>
      obtain ⟨j', member', read⟩ := holds
      exact ⟨a, once.eq member' member ▸ read⟩
  · intro readable
    by_cases there : name ∈ members.map Prod.fst
    · obtain ⟨⟨_, j⟩, member, rfl⟩ := List.mem_map.1 there
      obtain ⟨a, read⟩ := readable j member
      exact ⟨some a, j, member, read⟩
    · exact ⟨none, there⟩

/-- The value is given by a member of the name, and where there is none it is the default. -/
def Gives (members : List (String × Json)) (name : String) (write : α → Json)
    (default value : α) : Prop :=
  (name, write value) ∈ members ∨ name ∉ members.map Prod.fst ∧ value = default

theorem Holds.gives {write : α → Json} {default : α}
    (reads : ∀ {j a}, read j = .ok a ↔ j = write a) (h : Holds name read members after) :
    Gives members name write default (after.getD default) := by
  cases after with
  | none => exact .inr ⟨h, rfl⟩
  | some a =>
    obtain ⟨j, member, read⟩ := h
    exact .inl (reads.1 read ▸ member)

theorem Gives.eq {write : α → Json} {default a b : α} (once : Once members name)
    (inj : ∀ {a b}, write a = write b → a = b) (h : Gives members name write default a)
    (h' : Gives members name write default b) : a = b := by
  rcases h with there | ⟨missing, rfl⟩ <;> rcases h' with there' | ⟨missing', rfl⟩
  · exact inj (once.eq there there')
  · exact absurd (mem_names there) missing'
  · exact absurd (mem_names there') missing
  · rfl

end Field

/-! ## All fields -/

/-- A reader of records. What it has met is the values of some of its fields, and a member sets the
field of its name. -/
structure RecordReader (σ ι : Type) [DecidableEq ι] (α : ι → Type) where
  name : ι → String
  distinct : Function.Injective name
  read : ∀ i, Json → Except DecodeError (α i)
  met : σ ≃ ∀ i, Option (α i)
  meet : σ → Json × Json → Except DecodeError σ
  meet_known : ∀ s i j, meet s (.str (name i), j) = (do
    Form.once (name i) (met s i)
    let a ← read i j
    return met.symm (Function.update (met s) i (some a)))
  meet_unknown : ∀ s key j, (∀ i, name i ≠ key) → meet s (.str key, j) = (do
    skip j
    return s)

namespace RecordReader

variable {σ ι : Type} [DecidableEq ι] {α : ι → Type} (R : RecordReader σ ι α) {s s' : σ}
  {members : List (String × Json)}

/-- The field of a member is set if it is not met before, and the others stay as they are. -/
theorem bind_meet_known_eq_ok_iff {β : Type} {i : ι} {j : Json} {f : σ → Except DecodeError β}
    {b : β} :
    R.meet s (.str (R.name i), j) >>= f = .ok b ↔
      R.met s i = none ∧ ∃ a, R.read i j = .ok a ∧
        f (R.met.symm (Function.update (R.met s) i (some a))) = .ok b := by
  rw [R.meet_known]
  cases R.met s i with
  | some a => exact ⟨nofun, nofun⟩
  | none => simp [Form.once, bind_eq_ok_iff]

theorem foldlM_eq_ok_iff (complete : ∀ m ∈ members, Complete m.2) :
    (members.map fun m => (Json.str m.1, m.2)).foldlM R.meet s = .ok s' ↔
      ∀ i, After (R.name i) (R.read i) members (R.met s i) (R.met s' i) := by
  induction members generalizing s with
  | nil =>
    simp only [after_nil, List.map_nil, List.foldlM_nil]
    rw [← funext_iff, R.met.apply_eq_iff_eq, eq_comm]
    exact ⟨Except.ok.inj, congrArg _⟩
  | cons m members ih =>
    obtain ⟨key, j⟩ := m
    obtain ⟨here, later⟩ := List.forall_mem_cons.1 complete
    rw [List.map_cons, List.foldlM_cons]
    by_cases known : ∃ i, R.name i = key
    -- The member sets the field of its name. To every other field it is no member at all.
    · obtain ⟨i, rfl⟩ := known
      simp only [R.bind_meet_known_eq_ok_iff, ih later, Equiv.apply_symm_apply]
      constructor
      · rintro ⟨unmet, a, read, others⟩ i'
        by_cases same : i' = i
        · subst same
          exact after_cons_same.2 ⟨unmet, a, read, by simpa using others i'⟩
        · rw [after_cons_other fun names => same (R.distinct names).symm]
          simpa [Function.update_of_ne same] using others i'
      · intro each
        obtain ⟨unmet, a, read, set⟩ := after_cons_same.1 (each i)
        refine ⟨unmet, a, read, fun i' => ?_⟩
        by_cases same : i' = i
        · subst same
          simpa using set
        · have other := each i'
          rw [after_cons_other fun names => same (R.distinct names).symm] at other
          simpa [Function.update_of_ne same] using other
    · have unknown : ∀ i, R.name i ≠ key := fun i names => known ⟨i, names⟩
      rw [R.meet_unknown s key j unknown, here.skip_eq_ok]
      refine (ih later).trans (forall_congr' fun i => ?_)
      rw [after_cons_other (unknown i).symm]

/-- Each field is what the members say about it, and its name occurs at most once. -/
def Read (members : List (String × Json)) (s : σ) : Prop :=
  ∀ i, Once members (R.name i) ∧ Holds (R.name i) (R.read i) members (R.met s i)

/-- Where nothing is met before, members are met exactly as they can be read. -/
theorem foldlM_fresh_eq_ok_iff (complete : ∀ m ∈ members, Complete m.2)
    (fresh : ∀ i, R.met s i = none) :
    (members.map fun m => (Json.str m.1, m.2)).foldlM R.meet s = .ok s' ↔ R.Read members s' := by
  rw [R.foldlM_eq_ok_iff complete]
  refine forall_congr' fun i => ?_
  rw [fresh]
  rfl

variable {R}

theorem Read.readable (read : R.Read members s) (i : ι) {j : Json}
    (there : (R.name i, j) ∈ members) : ∃ a, R.read i j = .ok a :=
  (exists_holds_iff (read i).1).1 ⟨_, (read i).2⟩ j there

/-- If the values of all fields can be read, so can the members. -/
theorem exists_read (once : ∀ i, Once members (R.name i))
    (readable : ∀ i j, (R.name i, j) ∈ members → ∃ a, R.read i j = .ok a) :
    ∃ s, R.Read members s := by
  choose f holds using fun i => (exists_holds_iff (once i)).2 (readable i)
  refine ⟨R.met.symm f, fun i => ⟨once i, ?_⟩⟩
  rw [R.met.apply_symm_apply]
  exact holds i

end RecordReader

/-! ## What does not count -/

theorem exists_related {α β : Type} {R : α → β → Prop} {as : List α} {bs : List β} {a : α}
    (h : List.Forall₂ R as bs) (there : a ∈ as) : ∃ b ∈ bs, R a b := by
  induction h with
  | nil => cases there
  | cons first _ ih =>
    rcases List.mem_cons.1 there with rfl | later
    · exact ⟨_, List.mem_cons_self, first⟩
    · obtain ⟨b, member, related⟩ := ih later
      exact ⟨b, List.mem_cons_of_mem _ member, related⟩

/-- Two members of one name that have the same value, or, if the name is that of the part, parts
that are the same up to `R`. -/
def SameMember (part : String) (R : Json → Json → Prop) (m m' : String × Json) : Prop :=
  m.1 = m'.1 ∧ (m.2 = m'.2 ∨ m.1 = part ∧ R m.2 m'.2)

/-- The members of known names are the same, in some order and up to `R` in the part. -/
def Alike (known : List String) (part : String) (R : Json → Json → Prop)
    (members members' : List (String × Json)) : Prop :=
  ∃ ordered, (members.filter (·.1 ∈ known)).Perm ordered ∧
    List.Forall₂ (SameMember part R) ordered (members'.filter (·.1 ∈ known))

namespace Alike

variable {known : List String} {part : String} {R : Json → Json → Prop}
  {members members' : List (String × Json)} {name : String} {j : Json}

theorem symm (swaps : ∀ {j j'}, R j j' → R j' j) (h : Alike known part R members members') :
    Alike known part R members' members := by
  obtain ⟨ordered, perm, same⟩ := h
  obtain ⟨values, same, perm⟩ := List.perm_comp_forall₂ perm same
  refine ⟨values, perm.symm, same.flip.imp ?_⟩
  rintro m m' ⟨names, value⟩
  exact ⟨names.symm, value.imp Eq.symm fun ⟨is_part, related⟩ =>
    ⟨names.symm.trans is_part, swaps related⟩⟩

theorem exists_sameMember (h : Alike known part R members members') (is_known : name ∈ known)
    (there : (name, j) ∈ members) : ∃ m ∈ members', SameMember part R (name, j) m := by
  obtain ⟨ordered, perm, same⟩ := h
  have member : (name, j) ∈ ordered :=
    perm.mem_iff.1 (List.mem_filter.2 ⟨there, decide_eq_true is_known⟩)
  obtain ⟨m, other, related⟩ := exists_related same member
  exact ⟨m, (List.mem_filter.1 other).1, related⟩

theorem mem (h : Alike known part R members members') (is_known : name ∈ known)
    (other : name ≠ part) (there : (name, j) ∈ members) : (name, j) ∈ members' := by
  obtain ⟨⟨_, _⟩, there', rfl, rfl | ⟨is_part, -⟩⟩ := h.exists_sameMember is_known there
  · exact there'
  · exact absurd is_part other

theorem mem_part (h : Alike known part R members members') (is_known : part ∈ known)
    (there : (part, j) ∈ members) :
    (part, j) ∈ members' ∨ ∃ j', (part, j') ∈ members' ∧ R j j' := by
  obtain ⟨⟨_, j'⟩, there', rfl, rfl | ⟨-, related⟩⟩ := h.exists_sameMember is_known there
  · exact .inl there'
  · exact .inr ⟨j', there', related⟩

theorem names_perm (h : Alike known part R members members') :
    ((members.map Prod.fst).filter (· ∈ known)).Perm
      ((members'.map Prod.fst).filter (· ∈ known)) := by
  obtain ⟨ordered, perm, same⟩ := h
  have names : ordered.map Prod.fst = (members'.filter (·.1 ∈ known)).map Prod.fst := by
    rw [← List.forall₂_eq_eq_eq, List.forall₂_map_left_iff, List.forall₂_map_right_iff]
    exact same.imp fun _ _ pair => pair.1
  rw [List.filter_map, List.filter_map]
  exact names ▸ perm.map Prod.fst

theorem mem_names_iff (h : Alike known part R members members') (is_known : name ∈ known) :
    name ∈ members.map Prod.fst ↔ name ∈ members'.map Prod.fst := by
  simpa [is_known] using h.names_perm.mem_iff (a := name)

theorem gives {α : Type} {write : α → Json} {default a : α}
    (h : Alike known part R members members') (is_known : name ∈ known) (other : name ≠ part)
    (given : Gives members name write default a) : Gives members' name write default a :=
  given.imp (h.mem is_known other) (And.imp_left (mt (h.mem_names_iff is_known).2))

theorem once_iff (h : Alike known part R members members') (is_known : name ∈ known) :
    Once members name ↔ Once members' name := by
  have same := h.names_perm.count_eq name
  rw [List.count_filter, List.count_filter] at same
  · rw [Once, Once, same]
  all_goals exact decide_eq_true is_known

end Alike

end ProjectPicker.Json
