import ProjectPicker.Form.Yaml
import ProjectPicker.Proofs.Form
import ProjectPicker.Proofs.Json.Textual
import ProjectPicker.Proofs.Yaml.Values

/-!
# Templates of JSON as values of YAML

* `Template.mapTexts` : a template whose texts become what a function makes of them;
* `Template.node_toJson` : the YAML of it is that of a template with other texts;
* `Document.form_shows` : as a form, YAML shows JSON.
-/

set_option autoImplicit false

namespace ProjectPicker

open Yaml (node itemNodes memberNodes)

/-! ## Arrays and records -/

section Values

variable {f : String → String}

theorem Yaml.node_array {items : List Json} :
    node f (.array items) = .sequence none (items.map (node f)) := by
  have each : itemNodes f items = items.map (node f) := by
    induction items with
    | nil => rfl
    | cons j items ih => rw [itemNodes, List.map_cons, ih]
  rw [node, each]

theorem Yaml.node_record {members : List (String × Json)} :
    node f (.record members) =
      .mapping none (members.map fun m => (.scalar none (f m.1) false, node f m.2)) := by
  have each : memberNodes f (members.map fun m => (.str m.1, m.2)) =
      members.map fun m => (.scalar none (f m.1) false, node f m.2) := by
    induction members with
    | nil => rfl
    | cons m members ih => rw [List.map_cons, memberNodes, List.map_cons, ih]; rfl
  rw [Json.record, node, each]

end Values

/-! ## Texts -/

theorem map_eq_self_iff {α : Type} {f : α → α} {as : List α} :
    as.map f = as ↔ ∀ a ∈ as, f a = a := by
  simpa using List.map_eq_map_iff (f := f) (g := id) (l := as)

def Parameters.mapTexts (f : String → String) (p : Parameters) : Parameters :=
  ⟨p.entries.map fun e => (e.1, f e.2), List.pairwise_map.2 p.increasing⟩

namespace SourceLocation

def mapTexts (f : String → String) (s : SourceLocation) : SourceLocation where
  kind := f s.kind
  location := f s.location
  parameters := s.parameters.mapTexts f

theorem mapTexts_eq_self_iff {f : String → String} {s : SourceLocation} :
    s.mapTexts f = s ↔ ∀ t ∈ s.texts, f t = t := by
  obtain ⟨kind, location, ⟨entries, increasing⟩⟩ := s
  have parameters : (⟨entries, increasing⟩ : Parameters).mapTexts f = ⟨entries, increasing⟩ ↔
      ∀ e ∈ entries, f e.2 = e.2 := by
    simp [Parameters.mapTexts, map_eq_self_iff, Prod.ext_iff]
  simp only [mapTexts, mk.injEq, parameters, texts, List.forall_mem_cons, List.forall_mem_map]

end SourceLocation

namespace Template

/-- The template whose texts become what `f` makes of them. -/
def mapTexts (f : String → String) (t : Template) : Template where
  name := f t.name
  displayName := f t.displayName
  description := f t.description
  projectType := f t.projectType
  category := f t.category
  tags := t.tags.map f
  path := f t.path
  source := t.source.map (SourceLocation.mapTexts f)

/-- A template stays as it is if all its texts do. -/
theorem mapTexts_eq_self_iff {f : String → String} {t : Template} :
    t.mapTexts f = t ↔ ∀ s ∈ t.texts, f s = s := by
  have source : t.source.map (SourceLocation.mapTexts f) = t.source ↔
      ∀ s ∈ t.source.elim [] SourceLocation.texts, f s = s := by
    cases t.source with
    | none => simp
    | some s => simp [SourceLocation.mapTexts_eq_self_iff]
  obtain ⟨name, displayName, description, projectType, category, tags, path, written⟩ := t
  simp only [mapTexts, mk.injEq, source, map_eq_self_iff, texts]
  simp [or_imp, forall_and]

end Template

/-! ## In JSON -/

section Nodes

variable {f : String → String}

theorem Yaml.node_str (s : String) : node f (.str s) = .scalar none (f s) false := rfl

theorem Yaml.node_strings (ss : List String) :
    node f (.strings ss) = node id (.strings (ss.map f)) := by
  simp [Json.strings, node_array, node_str]

theorem Parameters.node_toJson {ps : Parameters}
    (names : ∀ n ∈ ps.entries.map Prod.fst, f n = n) :
    node f ps.toJson = node id (ps.mapTexts f).toJson := by
  rw [List.forall_mem_map] at names
  rw [toJson, toJson, mapTexts, Yaml.node_record, Yaml.node_record, List.map_map, List.map_map,
    List.map_map]
  congr 1
  refine List.map_congr_left fun e member => ?_
  simp [Yaml.node_str, names e member]

theorem SourceLocation.node_toJson (fields : ∀ n ∈ Template.fieldNames, f n = n)
    {s : SourceLocation} (names : ∀ n ∈ s.parameters.entries.map Prod.fst, f n = n) :
    node f s.toJson = node id (s.mapTexts f).toJson := by
  have parameters := Parameters.node_toJson names
  have empty : (s.parameters.mapTexts f).isEmpty = s.parameters.isEmpty := by
    simp [Parameters.mapTexts, Parameters.isEmpty]
  simp only [Template.fieldNames, List.forall_mem_cons] at fields
  rw [toJson, toJson, mapTexts, empty, Yaml.node_record, Yaml.node_record]
  split <;> simp [fields, Yaml.node_str, parameters]

/-- In YAML the JSON of a template is that of the template with other texts, if the names stay. -/
theorem Template.node_toJson (fields : ∀ n ∈ fieldNames, f n = n) {t : Template}
    (names : ∀ n ∈ t.parameterNames, f n = n) :
    node f t.toJson = node id (t.mapTexts f).toJson := by
  have source : t.sourceMembers.map (fun m => (Yaml.Node.scalar none (f m.1) false, node f m.2)) =
      (t.mapTexts f).sourceMembers.map fun m => (.scalar none (id m.1) false, node id m.2) := by
    simp only [parameterNames] at names
    simp only [sourceMembers, mapTexts]
    cases written : t.source with
    | none => rfl
    | some s =>
      rw [written] at names
      simp [fields "source" (by decide), SourceLocation.node_toJson fields names]
  simp only [fieldNames, List.forall_mem_cons] at fields
  rw [toJson_eq, toJson_eq, members, members, Yaml.node_record, Yaml.node_record, List.map_append,
    List.map_append, source]
  simp [fields, Yaml.node_str, Yaml.node_strings, mapTexts]

end Nodes

/-! ## YAML as a form of JSON -/

namespace Yaml

theorem entries_node (members : List (String × Json)) :
    Form.Entries (fun j n => n = node id j) members
      (members.map fun m => (.scalar none (id m.1) false, node id m.2)) := by
  refine ⟨members, .refl _, List.forall₂_map_right_iff.2 (List.forall₂_same.2 fun m _ => ?_)⟩
  exact ⟨rfl, rfl⟩

/-- As a form, YAML shows JSON. -/
theorem Document.form_shows (d : Document) : d.form.Shows fun j n => n = node id j where
  text h := by subst h; rfl
  fieldName h := by subst h; rfl
  items h := by
    subst h
    refine ⟨_, by rw [node_array]; rfl, List.forall₂_map_right_iff.2 ?_⟩
    exact List.forall₂_same.2 fun _ _ => rfl
  entries h := by
    subst h
    exact ⟨_, by rw [node_record]; rfl, entries_node _⟩
  fields h := by
    subst h
    exact ⟨_, by rw [node_record]; rfl, entries_node _⟩
  present h := by
    subst h
    rw [node_record]
    rfl

end Yaml

end ProjectPicker
