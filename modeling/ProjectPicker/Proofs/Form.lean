import Mathlib.Data.List.Perm.Basic
import Mathlib.Tactic.SplitIfs
import ProjectPicker.Proofs.Json.Textual
import ProjectPicker.Template.Decoder

/-!
# Decoding what was written

* `Form.Shows` : a form shows written values. The members of an object may come in any order;
* `Form.Shows.foldlM_seen` : the fields that a decoder has met after the members of an object, from
  what each of them does;
* `Parameters.decode_shown`, `SourceLocation.decode_shown`, `Template.decode_shown`,
  `Stack.decode_shown` : what was written is decoded, in every form that shows it.
-/

set_option autoImplicit false

namespace ProjectPicker

variable {ν : Type} {m : Type → Type} [Monad m]

namespace Form

/-- The entries are those of the members, in some order. -/
def Entries (R : Json → ν → Prop) (members : List (String × Json)) (entries : List (ν × ν)) :
    Prop :=
  ∃ ordered, members.Perm ordered ∧
    List.Forall₂ (fun member e => R (.str member.1) e.1 ∧ R member.2 e.2) ordered entries

/-- The form shows the values that were written: `R j n` says that it has `n` for `j`. -/
structure Shows (F : Form ν m) (R : Json → ν → Prop) : Prop where
  text : ∀ {s n}, R (.str s) n → F.text n = pure s
  fieldName : ∀ {s n}, R (.str s) n → F.fieldName n = pure s
  items : ∀ {js n}, R (.array js) n → ∃ ns, F.items n = pure ns ∧ List.Forall₂ R js ns
  entries : ∀ {ms n}, R (.record ms) n → ∃ es, F.entries n = pure es ∧ Entries R ms es
  fields : ∀ {ms n}, R (.record ms) n → ∃ es, F.fields n = pure (.named es) ∧ Entries R ms es
  present : ∀ {ms n}, R (.record ms) n → F.optional n = pure (some n)

namespace Shows

variable [LawfulMonad m] {F : Form ν m} {R : Json → ν → Prop} {n : ν}

theorem mapM_shown {α : Type} {write : α → Json} {decode : ν → m α} :
    ∀ {as : List α} {ns : List ν}, (∀ a ∈ as, ∀ n, R (write a) n → decode n = pure a) →
      List.Forall₂ R (as.map write) ns → ns.mapM decode = pure as
  | [], _, _, .nil => rfl
  | a :: as, _, each, .cons first others => by
    obtain ⟨here, later⟩ := List.forall_mem_cons.1 each
    simp only [List.mapM_cons, here _ first, mapM_shown later others, pure_bind]

theorem list {α : Type} {write : α → Json} {decode : ν → m α} (shows : F.Shows R) {as : List α}
    (each : ∀ a ∈ as, ∀ n, R (write a) n → decode n = pure a) (h : R (.array (as.map write)) n) :
    F.list decode n = pure as := by
  obtain ⟨ns, items, shown⟩ := shows.items h
  simp only [Form.list, items, pure_bind, mapM_shown each shown]

theorem texts (shows : F.Shows R) {ss : List String} (h : R (.strings ss) n) :
    F.texts n = pure ss :=
  shows.list (fun _ _ _ => shows.text) h

section Seen

variable {σ : Type} {meet : σ → ν × ν → m σ} {seen : List String → σ}
  {members : List (String × Json)}

theorem foldlM_ordered
    (step : ∀ {met name j key value}, (name, j) ∈ members → name ∉ met → R (.str name) key →
      R j value → meet (seen met) (key, value) = pure (seen (name :: met)))
    {ordered : List (String × Json)} {entries : List (ν × ν)}
    (shown : List.Forall₂ (fun member e => R (.str member.1) e.1 ∧ R member.2 e.2) ordered entries)
    (sub : ordered ⊆ members) (distinct : (ordered.map Prod.fst).Nodup) (met : List String)
    (fresh : ∀ name ∈ met, name ∉ ordered.map Prod.fst) :
    entries.foldlM meet (seen met) = pure (seen ((ordered.map Prod.fst).reverse ++ met)) := by
  induction shown generalizing met with
  | nil => rfl
  | @cons member e ordered entries here _ ih =>
    obtain ⟨member_in, sub⟩ := List.cons_subset.1 sub
    rw [List.map_cons, List.nodup_cons] at distinct
    have unmet : member.1 ∉ met := fun again => fresh _ again (by simp)
    -- The names met so far grow by one that is none of those still to come.
    have fresh_later : ∀ name ∈ member.1 :: met, name ∉ ordered.map Prod.fst := by
      refine List.forall_mem_cons.2 ⟨distinct.1, fun name met_before later => ?_⟩
      exact fresh name met_before (List.mem_cons_of_mem _ later)
    rw [List.foldlM_cons, step member_in unmet here.1 here.2, pure_bind,
      ih sub distinct.2 _ fresh_later]
    simp

/-- A decoder that meets each of the members, once, has met them all at the end. -/
theorem foldlM_seen {entries : List (ν × ν)} (distinct : (members.map Prod.fst).Nodup)
    (step : ∀ {met name j key value}, (name, j) ∈ members → name ∉ met → R (.str name) key →
      R j value → meet (seen met) (key, value) = pure (seen (name :: met)))
    (h : Entries R members entries) :
    ∃ names, names.Perm (members.map Prod.fst) ∧
      entries.foldlM meet (seen []) = pure (seen names) := by
  obtain ⟨ordered, perm, shown⟩ := h
  refine ⟨(ordered.map Prod.fst).reverse, (List.reverse_perm _).trans (perm.symm.map _), ?_⟩
  rw [foldlM_ordered step shown perm.symm.subset ((perm.map Prod.fst).nodup_iff.1 distinct) []
    (by simp), List.append_nil]

end Seen

end Shows

end Form

open Form (Shows Entries)

variable [LawfulMonad m] [MonadExcept DecodeError m] {F : Form ν m} {R : Json → ν → Prop} {n : ν}

/-! ## Parameters -/

theorem insertEntry_perm {name value : String} :
    ∀ {entries : List (String × String)}, name ∉ entries.map Prod.fst →
      (insertEntry name value entries).Perm ((name, value) :: entries)
  | [], _ => .refl _
  | (other, v) :: rest, new => by
    simp only [List.map_cons, List.mem_cons, not_or] at new
    unfold insertEntry
    split_ifs with before after
    · exact .refl _
    · exact ((insertEntry_perm new.2).cons _).trans (.swap _ _ _)
    · have same : name = other :=
        String.le_antisymm (String.not_lt.1 after) (String.not_lt.1 before)
      exact (new.1 same).elim

/-- Parameters are told by their entries in any order. -/
theorem Parameters.eq_of_perm {p q : Parameters} (h : p.entries.Perm q.entries) : p = q := by
  obtain ⟨entries, increasing⟩ := p
  obtain ⟨entries', increasing'⟩ := q
  congr
  exact h.eq_of_pairwise (fun a b _ _ before after =>
    (String.lt_irrefl _ (String.lt_trans before after)).elim) increasing increasing'

omit [MonadExcept DecodeError m] in
/-- Entries with different names are put in one after the other, whatever their order. -/
theorem Parameters.foldlM_insert (shows : F.Shows R) {written : List (String × String)}
    {entries : List (ν × ν)} (shown : List.Forall₂ (fun e e' => R (.str e.1) e'.1 ∧
      R (.str e.2) e'.2) written entries) (p : Parameters)
    (distinct : ((written ++ p.entries).map Prod.fst).Nodup) :
    ∃ q : Parameters, q.entries.Perm (written ++ p.entries) ∧
      entries.foldlM (fun p (e : ν × ν) => do
        let name ← F.fieldName e.1
        let text ← F.text e.2
        return p.insert name text) p = pure q := by
  induction shown generalizing p with
  | nil => exact ⟨p, .refl _, rfl⟩
  | @cons e e' written entries here _ ih =>
    simp only [List.cons_append, List.map_cons, List.nodup_cons, List.map_append, List.mem_append,
      not_or] at distinct
    have inserted : (p.insert e.1 e.2).entries.Perm (e :: p.entries) :=
      insertEntry_perm distinct.1.2
    have middle : (written ++ (p.insert e.1 e.2).entries).Perm (e :: (written ++ p.entries)) :=
      (inserted.append_left written).trans List.perm_middle
    obtain ⟨q, perm, read⟩ := ih (p.insert e.1 e.2) (by
      rw [(middle.map Prod.fst).nodup_iff]
      simpa [not_or] using distinct)
    refine ⟨q, perm.trans middle, ?_⟩
    rw [List.foldlM_cons, shows.fieldName here.1, pure_bind, shows.text here.2, pure_bind,
      pure_bind]
    exact read

omit [MonadExcept DecodeError m] in
theorem Parameters.decode_shown (shows : F.Shows R) {p : Parameters} (h : R p.toJson n) :
    Parameters.decode F n = pure p := by
  obtain ⟨es, dictionary, ordered, reordered, shown⟩ := shows.entries h
  obtain ⟨written, rfl, perm⟩ :=
    (congrFun₂ (List.eq_map_comp_perm fun e : String × String => (e.1, Json.str e.2))
      ordered p.entries).mpr reordered.symm
  have distinct : (written.map Prod.fst).Nodup := by
    rw [(perm.map Prod.fst).nodup_iff]
    refine List.pairwise_map.2 (p.increasing.imp ?_)
    intro a b before same
    exact String.lt_irrefl _ (same ▸ before)
  obtain ⟨q, entries, read⟩ := Parameters.foldlM_insert shows
    (List.forall₂_map_left_iff.1 shown) .empty (by simpa [Parameters.empty] using distinct)
  have same : q = p :=
    Parameters.eq_of_perm (entries.trans (by simpa [Parameters.empty] using perm))
  rw [same] at read
  unfold Parameters.decode
  rw [dictionary, pure_bind]
  exact read

/-! ## Sources -/

namespace SourceLocation

def seen (s : SourceLocation) (names : List String) : Met where
  kind := if "type" ∈ names then some s.kind else none
  location := if "location" ∈ names then some s.location else none
  parameters := if "parameters" ∈ names then some s.parameters else none

theorem meet_seen (shows : F.Shows R) {s : SourceLocation} {met : List String} {name : String}
    {j : Json} {key value : ν} (member : (name, j) ∈ s.members) (unmet : name ∉ met)
    (named : R (.str name) key) (valued : R j value) :
    meet F (s.seen met) (key, value) = pure (s.seen (name :: met)) := by
  have name_shown := shows.fieldName named
  simp only [members, List.mem_append, List.mem_cons, List.not_mem_nil, or_false] at member
  rcases member with (⟨rfl, rfl⟩ | ⟨rfl, rfl⟩) | member
  · simp [meet, name_shown, Form.once, seen, unmet, shows.text valued]
  · simp [meet, name_shown, Form.once, seen, unmet, shows.text valued]
  · obtain ⟨rfl, rfl⟩ : name = "parameters" ∧ j = s.parameters.toJson := by
      split at member <;> simp_all
    simp [meet, name_shown, Form.once, seen, unmet, Parameters.decode_shown shows valued]

theorem ofMet_seen {s : SourceLocation} {names : List String}
    (all : names.Perm (s.members.map Prod.fst)) :
    (ofMet (s.seen names) : m SourceLocation) = pure s := by
  have kind : "type" ∈ names := all.mem_iff.2 (by simp [members])
  have location : "location" ∈ names := all.mem_iff.2 (by simp [members])
  have parameters : (s.seen names).parameters.getD .empty = s.parameters := by
    by_cases none_written : s.parameters.entries = []
    · have empty : s.parameters = .empty := Parameters.eq_of_perm (by rw [none_written]; rfl)
      unfold seen
      dsimp only
      split <;> simp [empty]
    · have written : "parameters" ∈ names :=
        all.mem_iff.2 (by simp [members, Parameters.isEmpty, none_written])
      simp [seen, written]
  unfold ofMet
  rw [parameters]
  simp [seen, kind, location, Form.required]

theorem decode_shown (shows : F.Shows R) {s : SourceLocation} (h : R s.toJson n) :
    decode F n = pure s := by
  obtain ⟨es, fields, entries⟩ := shows.fields (show R (.record s.members) n from h)
  have distinct : (s.members.map Prod.fst).Nodup := by
    unfold members
    split <;> simp
  obtain ⟨names, all, met⟩ := Shows.foldlM_seen distinct (meet_seen shows) entries
  rw [show s.seen [] = {} by simp [seen]] at met
  simp [decode, fields, met, ofMet_seen all]

end SourceLocation

theorem SourceLocation.decodeOptional_shown (shows : F.Shows R) {s : SourceLocation}
    (h : R s.toJson n) : SourceLocation.decodeOptional F n = pure (some s) := by
  have present := shows.present (show R (.record s.members) n from h)
  simp [decodeOptional, present, SourceLocation.decode_shown shows h]

/-! ## Templates -/

namespace Template

def seen (t : Template) (names : List String) : Met where
  name := if "name" ∈ names then some t.name else none
  displayName := if "displayName" ∈ names then some t.displayName else none
  description := if "description" ∈ names then some t.description else none
  projectType := if "projectType" ∈ names then some t.projectType else none
  category := if "category" ∈ names then some t.category else none
  tags := if "tags" ∈ names then some t.tags else none
  path := if "path" ∈ names then some t.path else none
  source := if "source" ∈ names then some t.source else none

theorem meet_seen (shows : F.Shows R) {t : Template} {met : List String} {name : String}
    {j : Json} {key value : ν} (member : (name, j) ∈ t.members) (unmet : name ∉ met)
    (named : R (.str name) key) (valued : R j value) :
    meet F (t.seen met) (key, value) = pure (t.seen (name :: met)) := by
  have name_shown := shows.fieldName named
  simp only [members, List.mem_append, List.mem_cons, List.not_mem_nil, or_false,
    Prod.mk.injEq] at member
  rcases member with (text | text | text | text | text | tags | text) | source
  case inr =>
    obtain ⟨s, written, rfl, rfl⟩ : ∃ s, t.source = some s ∧ name = "source" ∧ j = s.toJson := by
      unfold sourceMembers at source
      cases written : t.source <;> simp_all
    simp [meet, name_shown, Form.once, seen, unmet, written,
      SourceLocation.decodeOptional_shown shows valued]
  case inl.inr.inr.inr.inr.inr.inl =>
    obtain ⟨rfl, rfl⟩ := tags
    simp [meet, name_shown, Form.once, seen, unmet, shows.texts valued]
  all_goals
    obtain ⟨rfl, rfl⟩ := text
    simp [meet, name_shown, Form.once, seen, unmet, shows.text valued]

theorem ofMet_seen {t : Template} {names : List String}
    (all : names.Perm (t.members.map Prod.fst)) : (ofMet (t.seen names) : m Template) = pure t := by
  have written : ∀ name ∈ ["name", "displayName", "description", "projectType", "category", "tags",
      "path"], name ∈ names := by
    intro name h
    refine all.mem_iff.2 ?_
    rw [members, List.map_append]
    exact List.mem_append_left _ h
  simp only [List.forall_mem_cons] at written
  have source : (t.seen names).source.getD none = t.source := by
    cases h : t.source with
    | none =>
      unfold seen
      dsimp only
      split <;> simp [h]
    | some s =>
      have there : "source" ∈ names := all.mem_iff.2 (by simp [members, sourceMembers, h])
      simp [seen, there, h]
  unfold ofMet
  rw [source]
  simp [seen, written, Form.required]

theorem decode_shown (shows : F.Shows R) {t : Template} (h : R t.toJson n) :
    decode F n = pure t := by
  rw [toJson_eq] at h
  obtain ⟨es, fields, entries⟩ := shows.fields h
  have distinct : (t.members.map Prod.fst).Nodup := by
    unfold members sourceMembers
    cases t.source <;> simp
  obtain ⟨names, all, met⟩ := Shows.foldlM_seen distinct (meet_seen shows) entries
  rw [show t.seen [] = {} by simp [seen]] at met
  simp [decode, fields, met, ofMet_seen all]

theorem decodeList_shown (shows : F.Shows R) {ts : List Template}
    (h : R (.array (ts.map toJson)) n) : decodeList F n = pure ts :=
  shows.list (fun _ _ _ => decode_shown shows) h

end Template

/-! ## Stacks -/

namespace Stack

def seen (s : Stack) (names : List String) : Met where
  id := if "id" ∈ names then some s.id else none
  name := if "name" ∈ names then some s.name else none
  tags := if "tags" ∈ names then some s.tags else none

theorem meet_seen (shows : F.Shows R) {s : Stack} {met : List String} {name : String}
    {j : Json} {key value : ν} (member : (name, j) ∈ s.members) (unmet : name ∉ met)
    (named : R (.str name) key) (valued : R j value) :
    meet F (s.seen met) (key, value) = pure (s.seen (name :: met)) := by
  have name_shown := shows.fieldName named
  simp only [members, List.mem_cons, List.not_mem_nil, or_false, Prod.mk.injEq] at member
  rcases member with ⟨rfl, rfl⟩ | ⟨rfl, rfl⟩ | ⟨rfl, rfl⟩
  · simp [meet, name_shown, Form.once, seen, unmet, shows.text valued]
  · simp [meet, name_shown, Form.once, seen, unmet, shows.text valued]
  · simp [meet, name_shown, Form.once, seen, unmet, shows.texts valued]

theorem decode_shown (shows : F.Shows R) {s : Stack} (h : R s.toJson n) :
    decode F n = pure s := by
  obtain ⟨es, fields, entries⟩ := shows.fields (show R (.record s.members) n from h)
  obtain ⟨names, all, met⟩ := Shows.foldlM_seen (by simp [members]) (meet_seen shows) entries
  have written : ∀ name ∈ ["id", "name", "tags"], name ∈ names := fun name h => all.mem_iff.2 h
  simp only [List.forall_mem_cons] at written
  rw [show s.seen [] = {} by simp [seen]] at met
  simp [decode, fields, met, ofMet, seen, written, Form.required]

end Stack

end ProjectPicker
