import Mathlib.Data.List.Forall2
import ProjectPicker.Form.Yaml

/-!
# What a decoding has seen

* `Decoding.Yields` : a decoding that succeeds, whatever number of aliases was followed before;
* `Document.value?`, `Document.items?`, `Document.entries?` : the value at a place, and the values
  in a list or the entries of a mapping there;
* `Document.text?`, `Document.label?` : the text of the scalar at a place, and what it says;
* `yields_resolve` and the lemmas after it : what a decoding that succeeds has found at a place.
-/

set_option autoImplicit false

namespace ProjectPicker.Yaml

namespace Decoding

variable {α β : Type}

/-- The decoding succeeds with this result, for some number of aliases followed before. -/
def Yields (x : Decoding α) (a : α) : Prop := ∃ jumps jumps', x.run jumps = .ok (a, jumps')

theorem yields_pure {a b : α} : Yields (pure a) b ↔ a = b := by
  constructor
  · rintro ⟨jumps, jumps', h⟩
    rw [StateT.run_pure] at h
    exact congrArg Prod.fst (Except.ok.inj h)
  · rintro rfl
    exact ⟨0, 0, rfl⟩

theorem not_yields_throw {e : DecodeError} {a : α} : ¬ Yields (throw e) a := by
  rintro ⟨jumps, jumps', h⟩
  cases h

theorem yields_liftM {x : Except DecodeError α} {a : α} :
    Yields (liftM x : Decoding α) a → x = .ok a := by
  rintro ⟨jumps, jumps', h⟩
  cases x with
  | error e => cases h
  | ok b => cases h; rfl

theorem Yields.bind {x : Decoding α} {f : α → Decoding β} {b : β} (h : (x >>= f).Yields b) :
    ∃ a, x.Yields a ∧ (f a).Yields b := by
  obtain ⟨jumps, jumps', h⟩ := h
  rw [StateT.run_bind] at h
  cases seen : x.run jumps with
  | error e => rw [seen] at h; cases h
  | ok r => rw [seen] at h; exact ⟨r.1, ⟨jumps, r.2, seen⟩, r.2, jumps', h⟩

theorem Yields.unless {p : Prop} [Decidable p] {e : DecodeError} {f : α → Decoding β}
    {x : Decoding β} {b : β} (h : (if p then throw e >>= f else x).Yields b) :
    ¬ p ∧ x.Yields b := by
  split at h
  · obtain ⟨_, refused, -⟩ := h.bind
    exact (not_yields_throw refused).elim
  · exact ⟨‹_›, h⟩

theorem Yields.mapM {f : α → Decoding β} :
    ∀ {as : List α} {bs : List β}, (as.mapM f).Yields bs →
      List.Forall₂ (fun a b => (f a).Yields b) as bs
  | [], bs, h => by
    rw [List.mapM_nil] at h
    obtain rfl := yields_pure.1 h
    exact .nil
  | a :: as, bs, h => by
    rw [List.mapM_cons] at h
    obtain ⟨b, first, h⟩ := h.bind
    obtain ⟨bs', rest, h⟩ := h.bind
    obtain rfl := yields_pure.1 h
    exact .cons first (Yields.mapM rest)

end Decoding

namespace Document

open Decoding (Yields yields_pure not_yields_throw yields_liftM)

variable {d : Document} {n : Node}

/-- The value at a place: an alias stands for the value with its number. -/
def value? (d : Document) : Node → Option Node
  | .alias target => d.targets.lookup target
  | n => some n

/-- The values in the list at a place; where nothing is written there are none. -/
def items? (d : Document) (n : Node) : Option (List Node) :=
  match d.value? n with
  | some (.sequence _ items) => some items
  | some n => if n.isNothing then some [] else none
  | none => none

def entries? (d : Document) (n : Node) : Option (List (Node × Node)) :=
  match d.value? n with
  | some (.mapping _ entries) => some entries
  | _ => none

def text? (d : Document) (n : Node) : Option String :=
  match d.value? n with
  | some (.scalar _ s _) => some s
  | _ => none

/-- What the scalar at a place says: a text, a number, or a word with a meaning of its own. -/
def label? (d : Document) (n : Node) : Option Content :=
  match d.value? n with
  | some (.scalar tag s plain) => (scalarContent tag s plain).toOption
  | _ => none

theorem yields_resolve {v : Node} (h : (d.resolve n).Yields v) : d.value? n = some v := by
  unfold resolve at h
  split at h
  · obtain ⟨jumps, -, h⟩ := h.bind
    obtain ⟨_, -, h⟩ := h.unless.2.bind
    split at h
    · rename_i target _ found
      obtain rfl := yields_pure.1 h
      exact found
    · exact (not_yields_throw h).elim
  · rename_i v' no_alias
    obtain rfl := yields_pure.1 h
    unfold value?
    split
    · exact (no_alias _ rfl).elim
    · rfl

theorem value_of_entries {entries : List (Node × Node)} (h : d.entries? n = some entries) :
    ∃ tag, d.value? n = some (.mapping tag entries) := by
  unfold entries? at h
  split at h
  · rename_i tag _ value
    exact ⟨tag, Option.some.inj h ▸ value⟩
  · cases h

theorem yields_toText {s : String} (h : (d.toText n).Yields s) : d.text? n = some s := by
  obtain ⟨v, seen, h⟩ := h.bind
  have value := yields_resolve seen
  split at h
  · obtain rfl := yields_pure.1 h
    simp [text?, value]
  · exact (not_yields_throw h).elim

theorem yields_toItems {items : List Node} (h : (d.toItems n).Yields items) :
    d.items? n = some items := by
  obtain ⟨v, seen, h⟩ := h.bind
  have value := yields_resolve seen
  split at h
  · obtain rfl := yields_pure.1 h
    simp [items?, value]
  · rename_i no_sequence
    split at h
    · rename_i nothing
      obtain rfl := yields_pure.1 h
      unfold items?
      rw [value]
      split <;> simp_all
    · exact (not_yields_throw h).elim

/-- A content that is a text or a number is what the scalar there says. -/
theorem yields_toContent {depth : Nat} {c : Content} (h : (d.toContent depth n).Yields c)
    (scalar : (∃ s, c = .text s) ∨ ∃ i, c = .index i) : d.label? n = some c := by
  -- A list, a dictionary and nothing at all are other contents.
  have text_or_number : c ≠ .unit ∧ (∀ cs, c ≠ .list cs) ∧ ∀ es, c ≠ .dictionary es := by
    rcases scalar with ⟨s, rfl⟩ | ⟨i, rfl⟩ <;> simp
  obtain ⟨no_unit, no_list, no_dictionary⟩ := text_or_number
  unfold toContent at h
  split at h
  all_goals
    obtain ⟨v, seen, h⟩ := h.bind
    have value := yields_resolve seen
    have h := h.unless.2
    dsimp only at h
    split at h
  · simp [label?, value, yields_liftM h, Except.toOption]
  · exact (no_unit (yields_pure.1 h).symm).elim
  · exact (not_yields_throw h).elim
  · simp [label?, value, yields_liftM h, Except.toOption]
  · obtain ⟨cs, -, h⟩ := h.bind
    exact (no_list cs (yields_pure.1 h).symm).elim
  · obtain ⟨es, -, h⟩ := h.bind
    exact (no_dictionary es (yields_pure.1 h).symm).elim
  · exact (no_unit (yields_pure.1 h).symm).elim
  · exact (not_yields_throw h).elim

/-- A mapping is a record with its entries as fields. -/
theorem yields_toFields {entries : List (Node × Node)} {fields : Fields Node}
    (mapping : d.entries? n = some entries) (h : (d.toFields n).Yields fields) :
    fields = .named entries := by
  obtain ⟨tag, mapping⟩ := value_of_entries mapping
  obtain ⟨found, seen, h⟩ := h.bind
  obtain ⟨v, seen, same⟩ := seen.bind
  obtain rfl := Option.some.inj ((yields_resolve seen).symm.trans mapping)
  obtain rfl := yields_pure.1 same
  exact (yields_pure.1 h).symm

/-- A record whose first look decides what it is has the entries of its mapping as fields. -/
theorem yields_toTagged {entries : List (Node × Node)} {fields : Fields Node}
    (mapping : d.entries? n = some entries) (h : (d.toTagged n).Yields fields) :
    fields = .named entries := by
  obtain ⟨tag, mapping⟩ := value_of_entries mapping
  obtain ⟨v, seen, h⟩ := h.bind
  obtain rfl := Option.some.inj ((yields_resolve seen).symm.trans mapping)
  exact (yields_pure.1 h.unless.2).symm

end Document

/-- What is decoded of a text is decoded of its document, and the document is whole. -/
theorem yields_of_decode {α : Type} {decoder : Form Node Decoding → Node → Decoding α}
    {text : String} {a : α} (h : decode decoder text = .ok a) :
    (decoder (Document.read text).form (Document.read text).root).Yields a ∧
      (Document.read text).isWhole = true := by
  unfold decode at h
  cases read : (decoder (Document.read text).form (Document.read text).root).run 0 with
  | error e => simp only [read] at h; cases h
  | ok r =>
    simp only [read] at h
    by_cases whole : (Document.read text).isWhole = true
    · have same : (Except.ok r.1 : Except DecodeError α) = .ok a := (if_pos whole).symm.trans h
      exact ⟨⟨0, r.2, by rw [read, ← Except.ok.inj same]⟩, whole⟩
    · cases (if_neg whole).symm.trans h

end ProjectPicker.Yaml
