import ProjectPicker.Json
import ProjectPicker.Template.Written

/-!
# Values that are made of texts

* `Json.Textual` : values that are made of texts, arrays and objects. Templates and stacks are
  written so;
* `SourceLocation.members`, `Template.members`, `Stack.members` : the members that these are
  written as;
* `Json.every` : whether each text and each name of a value is as it should be;
* `Template.texts`, `Template.parameterNames` : the texts that a template holds, and the names of
  its parameters;
* `Template.every_toJson` : what holds of all texts and names in the JSON of a template.
-/

set_option autoImplicit false

namespace ProjectPicker

namespace Json

/-- A value that is made of texts, arrays and objects. -/
inductive Textual : Json → Prop
  | str (s : String) : Textual (.str s)
  | array {items : List Json} : (∀ j ∈ items, Textual j) → Textual (.array items)
  | record {members : List (String × Json)} : (∀ m ∈ members, Textual m.2) →
    Textual (.record members)

def textChars : Json → List Char
  | .text s => (s.getD "").toList
  | _ => []

mutual

/-- Whether each text of a value is as `p` says, and each name of a member as `q` says. -/
def every (p q : List Char → Bool) : Json → Bool
  | .text s => p (s.getD "").toList
  | .array items => everyItem p q items
  | .object members => everyMember p q members
  | _ => true

def everyItem (p q : List Char → Bool) : List Json → Bool
  | [] => true
  | j :: rest => every p q j && everyItem p q rest

def everyMember (p q : List Char → Bool) : List (Json × Json) → Bool
  | [] => true
  | (k, v) :: rest => q (textChars k) && every p q v && everyMember p q rest

end

section Every

variable {p q : List Char → Bool}

theorem every_str (s : String) : every p q (.str s) = p s.toList := rfl

theorem every_array {items : List Json} :
    every p q (.array items) = items.all (every p q) := by
  have each : everyItem p q items = items.all (every p q) := by
    induction items with
    | nil => rfl
    | cons j items ih => rw [everyItem, List.all_cons, ih]
  rw [every, each]

theorem every_strings (ss : List String) : every p q (.strings ss) = ss.all (p ·.toList) := by
  rw [strings, every_array, List.all_map]
  rfl

theorem every_record {members : List (String × Json)} :
    every p q (.record members) = members.all fun m => q m.1.toList && every p q m.2 := by
  have each : everyMember p q (members.map fun m => (.str m.1, m.2)) =
      members.all fun m => q m.1.toList && every p q m.2 := by
    induction members with
    | nil => rfl
    | cons m members ih => rw [List.map_cons, everyMember, List.all_cons, ih]; rfl
  rw [record, every, each]

end Every

theorem Textual.strings (ss : List String) : Textual (.strings ss) := .array fun j member => by
  obtain ⟨s, -, rfl⟩ := List.mem_map.1 member
  exact .str s

end Json

open Json (Textual every)

variable {p q : List Char → Bool}

/-! ## Parameters and sources -/

theorem Parameters.textual (p : Parameters) : Textual p.toJson := by
  refine .record fun m member => ?_
  obtain ⟨e, -, rfl⟩ := List.mem_map.1 member
  exact .str e.2

theorem Parameters.every_toJson (ps : Parameters) :
    every p q ps.toJson = true ↔ (∀ s ∈ ps.entries.map Prod.snd, p s.toList = true) ∧
      ∀ n ∈ ps.entries.map Prod.fst, q n.toList = true := by
  simp only [toJson, Json.every_record, List.all_map, List.all_eq_true, List.forall_mem_map,
    Function.comp_apply, Json.every_str, Bool.and_eq_true]
  exact ⟨fun h => ⟨fun e he => (h e he).2, fun e he => (h e he).1⟩,
    fun h e he => ⟨h.2 e he, h.1 e he⟩⟩

def Template.fieldNames : List String :=
  ["name", "displayName", "description", "projectType", "category", "tags", "path", "source",
    "type", "location", "parameters"]

namespace SourceLocation

def members (s : SourceLocation) : List (String × Json) :=
  [("type", .str s.kind), ("location", .str s.location)] ++
    if s.parameters.isEmpty then [] else [("parameters", s.parameters.toJson)]

theorem textual (s : SourceLocation) : Textual s.toJson := by
  refine .record (List.forall_mem_append.2 ⟨?_, ?_⟩)
  · simp only [List.forall_mem_cons]
    exact ⟨.str _, .str _, by simp⟩
  · split
    · simp
    · simpa using s.parameters.textual

def texts (s : SourceLocation) : List String :=
  s.kind :: s.location :: s.parameters.entries.map Prod.snd

theorem every_toJson (fields : ∀ n ∈ Template.fieldNames, q n.toList = true)
    (s : SourceLocation) :
    every p q s.toJson = true ↔ (∀ t ∈ s.texts, p t.toList = true) ∧
      ∀ n ∈ s.parameters.entries.map Prod.fst, q n.toList = true := by
  simp only [Template.fieldNames, List.forall_mem_cons] at fields
  have parameters : ((if s.parameters.isEmpty then []
      else [("parameters", s.parameters.toJson)]).all fun m => q m.1.toList && every p q m.2) =
        true ↔ every p q s.parameters.toJson = true := by
    split
    · rename_i empty
      have none_written : s.parameters.entries = [] := List.isEmpty_iff.1 empty
      simp [Parameters.every_toJson, none_written]
    · simp [fields, -String.reduceToList]
  rw [toJson, Json.every_record, List.all_append, Bool.and_eq_true, parameters,
    Parameters.every_toJson]
  simp [texts, fields, Json.every_str, and_assoc, -String.reduceToList]

end SourceLocation

/-! ## Templates and stacks -/

namespace Template

def sourceMembers (t : Template) : List (String × Json) :=
  t.source.elim [] fun s => [("source", s.toJson)]

def members (t : Template) : List (String × Json) :=
  [("name", .str t.name), ("displayName", .str t.displayName),
    ("description", .str t.description), ("projectType", .str t.projectType),
    ("category", .str t.category), ("tags", .strings t.tags), ("path", .str t.path)] ++
    t.sourceMembers

theorem toJson_eq (t : Template) : t.toJson = .record t.members := by
  unfold toJson members sourceMembers
  cases t.source <;> rfl

theorem textual (t : Template) : Textual t.toJson := by
  rw [toJson_eq]
  refine .record (List.forall_mem_append.2 ⟨?_, ?_⟩)
  · simp only [List.forall_mem_cons]
    exact ⟨.str _, .str _, .str _, .str _, .str _, Textual.strings _, .str _, by simp⟩
  · unfold sourceMembers
    cases t.source with
    | none => simp
    | some s => simpa using s.textual

def texts (t : Template) : List String :=
  [t.name, t.displayName, t.description, t.projectType, t.category] ++ t.tags ++ t.path ::
    t.source.elim [] SourceLocation.texts

def parameterNames (t : Template) : List String :=
  t.source.elim [] fun s => s.parameters.entries.map Prod.fst

/-- What holds of all texts in the JSON of a template, and of the names of its members. -/
theorem every_toJson (fields : ∀ n ∈ fieldNames, q n.toList = true) (t : Template) :
    every p q t.toJson = true ↔ (∀ s ∈ t.texts, p s.toList = true) ∧
      ∀ n ∈ t.parameterNames, q n.toList = true := by
  have source : (t.sourceMembers.all fun m => q m.1.toList && every p q m.2) = true ↔
      (∀ s ∈ t.source.elim [] SourceLocation.texts, p s.toList = true) ∧
        ∀ n ∈ t.parameterNames, q n.toList = true := by
    unfold sourceMembers parameterNames
    cases t.source with
    | none => simp
    | some s =>
      have name := fields "source" (by decide)
      simpa [name, -String.reduceToList] using SourceLocation.every_toJson fields s
  simp only [fieldNames, List.forall_mem_cons] at fields
  rw [toJson_eq, members, Json.every_record, List.all_append, Bool.and_eq_true, source]
  simp [texts, fields, Json.every_str, Json.every_strings, and_assoc, forall_and, or_imp,
    -String.reduceToList]

end Template

namespace Stack

def members (s : Stack) : List (String × Json) :=
  [("id", .str s.id), ("name", .str s.name), ("tags", .strings s.tags)]

theorem textual (s : Stack) : Textual s.toJson := by
  refine .record ?_
  simp only [List.forall_mem_cons]
  exact ⟨.str _, .str _, .strings _, by simp⟩

end Stack

end ProjectPicker
