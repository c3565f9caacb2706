import ProjectPicker.Command.Decoder
import ProjectPicker.Proofs.Yaml.Decoding

/-!
# The keys of a command

* `Document.Names` : a key names a field of an action, by its name or its number;
* `Document.Keyed` : among the entries of a command one names the action, and each other names a
  field of that action, none twice;
* `keyed_of_yields` : a mapping that is read as a command is keyed by the action of the command.
-/

set_option autoImplicit false

namespace ProjectPicker

open Yaml (Document Node Decoding)
open Yaml.Decoding (Yields yields_pure not_yields_throw)
open Yaml.Document (yields_toText yields_toContent yields_toTagged)

namespace Yaml.Document

/-- The key of an entry names this field of the action. -/
def Names (d : Document) (a : Command.Action) (entry : Node × Node) (name : String) : Prop :=
  ∃ label, d.label? entry.1 = some label ∧ a.fieldName label = .ok name

/-- One entry names the action, and each other a field of it, none twice. -/
def Keyed (d : Document) (a : Command.Action) (entries : List (Node × Node)) : Prop :=
  ∃ before key value after names,
    entries = before ++ (key, value) :: after ∧
      d.label? key = some (.text "action") ∧ d.text? value = some a.word ∧
      List.Forall₂ (d.Names a) (before ++ after) names ∧ names.Nodup

end Yaml.Document

namespace Command

/-! ## Contents -/

theorem bind_eq_ok {α β : Type} {x : Except DecodeError α} {f : α → Except DecodeError β} {b : β}
    (h : x >>= f = .ok b) : ∃ a, x = .ok a ∧ f a = .ok b := by
  cases x with
  | error e => cases h
  | ok a => exact ⟨a, rfl, h⟩

theorem Action.word_of_ofWord? {word : String} {a : Action} (h : Action.ofWord? word = some a) :
    word = a.word := by
  unfold Action.ofWord? at h
  split at h <;> cases h <;> rfl

theorem Action.fieldName_scalar {a : Action} {c : Content} {name : String}
    (h : a.fieldName c = .ok name) : (∃ s, c = .text s) ∨ ∃ i, c = .index i := by
  cases c with
  | text s => exact .inl ⟨s, rfl⟩
  | index i => exact .inr ⟨i, rfl⟩
  | _ => cases h

theorem names_of_readEntries {a : Action} :
    ∀ {entries : List (Content × Content)} {met met' : List (String × Value)},
      readEntries a met entries = .ok met' →
        ∃ names, List.Forall₂ (fun e name => a.fieldName e.1 = .ok name) entries names ∧
          names.Nodup ∧ ∀ name ∈ names, name ∉ met.map Prod.fst
  | [], met, met', _ => ⟨[], .nil, .nil, by simp⟩
  | (key, value) :: rest, met, met', h => by
    unfold readEntries at h
    obtain ⟨name, named, h⟩ := bind_eq_ok h
    split at h
    · cases h
    · rename_i not_met
      obtain ⟨v, -, h⟩ := bind_eq_ok h
      obtain ⟨names, named_rest, distinct, unmet⟩ := names_of_readEntries h
      have name_unmet : name ∉ met.map Prod.fst := by simpa using not_met
      have apart : name ∉ names ∧ ∀ other ∈ names, other ∉ met.map Prod.fst := by
        constructor
        · exact fun again => unmet name again (by simp)
        · exact fun other later met_before => unmet other later (by simp_all)
      refine ⟨name :: names, .cons named named_rest, List.nodup_cons.2 ⟨apart.1, distinct⟩, ?_⟩
      exact List.forall_mem_cons.2 ⟨name_unmet, apart.2⟩

theorem action_of_ofValues {met : List (String × Value)} {a : Action} {c : Command}
    (h : ofValues met a = .ok c) : c.action = a := by
  cases a with
  | selectStack =>
    simp only [ofValues] at h
    split at h <;> cases h <;> rfl
  | setZipLocation =>
    obtain ⟨location, -, h⟩ := bind_eq_ok h
    split at h <;> cases h <;> rfl
  | setGitLocation | addFromSource =>
    obtain ⟨value, -, h⟩ := bind_eq_ok h
    cases h
    rfl
  | toggleTemplate | renameProject =>
    obtain ⟨first, -, h⟩ := bind_eq_ok h
    obtain ⟨second, -, h⟩ := bind_eq_ok h
    cases h
    rfl

theorem action_of_ofContent {a : Action} {content : Content} {c : Command}
    (h : ofContent a content = .ok c) : c.action = a := by
  unfold ofContent at h
  split at h
  · obtain ⟨met, -, h⟩ := bind_eq_ok h
    exact action_of_ofValues h
  · obtain ⟨met, -, h⟩ := bind_eq_ok h
    exact action_of_ofValues h
  · cases h

/-! ## Entries -/

section Entries

variable {d : Document} {depth : Nat}

/-- The content is that of a field: its key and its value. -/
def FieldContent (d : Document) (depth : Nat) (entry : Node × Node) (content : Content × Content) :
    Prop :=
  (d.toContent depth entry.1).Yields content.1 ∧ (d.toContent depth entry.2).Yields content.2

theorem yields_decodeAction {n : Node} {a : Action} (h : (decodeAction d.form n).Yields a) :
    d.text? n = some a.word := by
  obtain ⟨word, seen, h⟩ := h.bind
  split at h
  · rename_i found
    obtain rfl := yields_pure.1 h
    rw [← Action.word_of_ofWord? found]
    exact yields_toText seen
  · exact (not_yields_throw h).elim

/-- An entry is the action, which was not met before, or a field. -/
theorem yields_splitAction {action : Option Action} {contents : List (Content × Content)}
    {entry : Node × Node} {r : Option Action × List (Content × Content)}
    (h : (splitAction d.form depth (action, contents) entry).Yields r) :
    (∃ a, action = none ∧ r = (some a, contents) ∧
      (d.toContent depth entry.1).Yields (.text "action") ∧ d.text? entry.2 = some a.word) ∨
    ∃ content, FieldContent d depth entry content ∧ r = (action, contents ++ [content]) := by
  obtain ⟨key, seen, h⟩ := h.bind
  split at h
  · left
    obtain ⟨_, checked, h⟩ := h.bind
    obtain ⟨a, worded, h⟩ := h.bind
    refine ⟨a, ?_, (yields_pure.1 h).symm, seen, yields_decodeAction worded⟩
    unfold Form.once at checked
    split at checked
    · exact (not_yields_throw checked).elim
    · rfl
  · right
    obtain ⟨c, value, h⟩ := h.bind
    exact ⟨(key, c), ⟨seen, value⟩, (yields_pure.1 h).symm⟩

theorem yields_fields {a : Action} :
    ∀ {entries : List (Node × Node)} {contents : List (Content × Content)}
      {r : Option Action × List (Content × Content)},
      (entries.foldlM (splitAction d.form depth) (some a, contents)).Yields r →
        ∃ more, List.Forall₂ (FieldContent d depth) entries more ∧ r = (some a, contents ++ more)
  | [], contents, r, h => ⟨[], .nil, by simpa using (yields_pure.1 h).symm⟩
  | entry :: rest, contents, r, h => by
    rw [List.foldlM_cons] at h
    obtain ⟨r', first, h⟩ := h.bind
    rcases yields_splitAction first with ⟨_, none_met, -⟩ | ⟨content, field, rfl⟩
    · cases none_met
    · obtain ⟨more, fields, rfl⟩ := yields_fields h
      exact ⟨content :: more, .cons field fields, by simp⟩

theorem yields_split {a : Action} :
    ∀ {entries : List (Node × Node)} {contents all : List (Content × Content)},
      (entries.foldlM (splitAction d.form depth) (none, contents)).Yields (some a, all) →
        ∃ before key value after more, entries = before ++ (key, value) :: after ∧
          (d.toContent depth key).Yields (.text "action") ∧ d.text? value = some a.word ∧
          List.Forall₂ (FieldContent d depth) (before ++ after) more ∧ all = contents ++ more
  | [], contents, all, h => by cases yields_pure.1 h
  | entry :: rest, contents, all, h => by
    rw [List.foldlM_cons] at h
    obtain ⟨r', first, h⟩ := h.bind
    rcases yields_splitAction first with ⟨a', -, rfl, named, worded⟩ | ⟨content, field, rfl⟩
    · obtain ⟨more, fields, same⟩ := yields_fields h
      cases same
      exact ⟨[], entry.1, entry.2, rest, more, rfl, named, worded, fields, rfl⟩
    · obtain ⟨before, key, value, after, more, rfl, named, worded, fields, rfl⟩ := yields_split h
      exact ⟨entry :: before, key, value, after, content :: more, rfl, named, worded,
        .cons field fields, by simp⟩

theorem names_of_fields {a : Action} {entries : List (Node × Node)}
    {contents : List (Content × Content)} {names : List String}
    (fields : List.Forall₂ (FieldContent d depth) entries contents)
    (named : List.Forall₂ (fun e name => a.fieldName e.1 = .ok name) contents names) :
    List.Forall₂ (d.Names a) entries names := by
  induction fields generalizing names with
  | nil =>
    cases named
    exact .nil
  | cons field _ ih =>
    obtain _ | ⟨name, rest⟩ := named
    exact .cons ⟨_, yields_toContent field.1 (Action.fieldName_scalar name), name⟩ (ih rest)

theorem yields_required {α : Type} {name : String} {met : Option α} {a : α}
    (h : (Form.required name met : Decoding α).Yields a) : met = some a := by
  unfold Form.required at h
  split at h
  · rw [yields_pure.1 h]
  · exact (not_yields_throw h).elim

/-- A mapping that is read as a command is keyed by the action of the command. -/
theorem keyed_of_yields {n : Node} {c : Command} (h : (decodeWithin d.form depth n).Yields c)
    {entries : List (Node × Node)} (mapping : d.entries? n = some entries) :
    d.Keyed c.action entries := by
  obtain ⟨⟨a, content⟩, parts, h⟩ := h.bind
  have read : ofContent a content = .ok c := by
    cases read : ofContent a content with
    | error e =>
      simp only [read] at h
      exact (not_yields_throw h).elim
    | ok c' =>
      simp only [read] at h
      rw [yields_pure.1 h]
  obtain rfl := action_of_ofContent read
  obtain ⟨fields, seen, parts⟩ := parts.bind
  obtain rfl := yields_toTagged mapping seen
  obtain ⟨⟨action, contents⟩, split, parts⟩ := parts.bind
  obtain ⟨a, required, parts⟩ := parts.bind
  obtain ⟨rfl, rfl⟩ := Prod.mk.inj (yields_pure.1 parts)
  obtain rfl := yields_required required
  obtain ⟨before, key, value, after, more, rfl, named, worded, fields, rfl⟩ := yields_split split
  obtain ⟨met, met_read, -⟩ := bind_eq_ok read
  obtain ⟨names, fields_named, distinct, -⟩ := names_of_readEntries met_read
  exact ⟨before, key, value, after, names, rfl, yields_toContent named (.inl ⟨_, rfl⟩), worded,
    names_of_fields fields fields_named, distinct⟩

end Entries

end Command

end ProjectPicker
