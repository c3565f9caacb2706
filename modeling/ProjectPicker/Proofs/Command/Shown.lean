import ProjectPicker.Command.Decoder
import ProjectPicker.Command.Written
import ProjectPicker.Proofs.Form

/-!
# Decoding commands that were written

* `Form.ShowsContents` : a form that shows written values shows the contents of scalars as well;
* `Command.values` : the values of the fields of a command;
* `Command.decode_shown`, `Script.decode_shown` : a command and a script that were written are
  decoded, wherever the action stands among the fields.
-/

set_option autoImplicit false

namespace ProjectPicker

def Json.content : Json → Content
  | .bool b => .bool b
  | .text (some s) => .text s
  | _ => .unit

/-- A value without parts, which is no number. -/
inductive Json.Plain : Json → Prop
  | null : Plain .null
  | bool (b : Bool) : Plain (.bool b)
  | str (s : String) : Plain (.str s)

variable {ν : Type} {m : Type → Type} [Monad m]

/-- The form shows the contents of plain values, and the fields of what says itself what it is. -/
structure Form.ShowsContents (F : Form ν m) (R : Json → ν → Prop) : Prop extends F.Shows R where
  content : ∀ {j n}, j.Plain → R j n → ∀ depth, F.content depth n = pure j.content
  tagged : ∀ {ms n}, R (.record ms) n → ∃ es, F.tagged n = pure (.named es) ∧ Entries R ms es

namespace Command

/-! ## Fields -/

def values : Command → List (String × Value)
  | .selectStack id => [("stack_id", .optional id)]
  | .setGitLocation location => [("location", .text location)]
  | .setZipLocation location skip =>
    [("location", .text location), ("skip_first_level", .flag skip)]
  | .toggleTemplate name checked => [("name", .text name), ("checked", .flag checked)]
  | .addFromSource source => [("source", .source source)]
  | .renameProject old new => [("from", .text old), ("to", .text new)]

/-- A field as it is written is read back to its value. -/
structure ReadsBack (field : String × Json) (value : String × Value) : Prop where
  name : value.1 = field.1
  plain : field.2.Plain
  read : readValue field.1 field.2.content = .ok value.2

theorem ReadsBack.all_plain {fields : List (String × Json)} {vs : List (String × Value)}
    (reads : List.Forall₂ ReadsBack fields vs) : ∀ f ∈ fields, f.2.Plain := by
  induction reads with
  | nil => simp
  | cons here _ ih => exact List.forall_mem_cons.2 ⟨here.plain, ih⟩

theorem fields_readBack (c : Command) : List.Forall₂ ReadsBack c.fields c.values := by
  cases c with
  | selectStack id =>
    cases id with
    | none => exact .cons ⟨rfl, .null, rfl⟩ .nil
    | some s => exact .cons ⟨rfl, .str s, rfl⟩ .nil
  | setGitLocation location => exact .cons ⟨rfl, .str location, rfl⟩ .nil
  | setZipLocation location skip =>
    exact .cons ⟨rfl, .str location, rfl⟩ (.cons ⟨rfl, .bool skip, rfl⟩ .nil)
  | toggleTemplate name checked =>
    exact .cons ⟨rfl, .str name, rfl⟩ (.cons ⟨rfl, .bool checked, rfl⟩ .nil)
  | addFromSource source =>
    have read : readValue "source" source.toJson.content = .ok (.source source) := by
      cases source <;> rfl
    exact .cons ⟨rfl, .str source.word, read⟩ .nil
  | renameProject old new =>
    exact .cons ⟨rfl, .str old, rfl⟩ (.cons ⟨rfl, .str new, rfl⟩ .nil)

theorem names_fields (c : Command) : c.fields.map Prod.fst = c.action.fieldNames := by
  cases c <;> rfl

theorem names_values (c : Command) : c.values.map Prod.fst = c.action.fieldNames := by
  cases c <;> rfl

theorem Action.distinct_fieldNames (a : Action) : a.fieldNames.Nodup := by
  cases a <;> decide

theorem readEntries_written {a : Action} {fields : List (String × Json)}
    {vs : List (String × Value)} (reads : List.Forall₂ ReadsBack fields vs)
    (known : ∀ f ∈ fields, f.1 ∈ a.fieldNames) (met : List (String × Value))
    (distinct : ((met ++ vs).map Prod.fst).Nodup) :
    readEntries a met (fields.map fun f => (.text f.1, f.2.content)) = .ok (met ++ vs) := by
  induction reads generalizing met with
  | nil => simp [readEntries]
  | @cons field value fields vs reads _ ih =>
    obtain ⟨name, v⟩ := value
    obtain rfl : name = field.1 := reads.name
    obtain ⟨here, later⟩ := List.forall_mem_cons.1 known
    have named : a.fieldName (.text field.1) = .ok field.1 := if_pos (List.contains_iff_mem.2 here)
    have unmet : ¬ met.any (·.1 == field.1) := by
      rw [List.map_append, List.map_cons, List.nodup_append] at distinct
      simp only [List.any_eq_true, beq_iff_eq, not_exists, not_and]
      exact fun x hx same => distinct.2.2 x.1 (List.mem_map_of_mem hx) field.1 (by simp) same
    have rest := ih later (met ++ [(field.1, v)]) (by simpa using distinct)
    rw [List.map_cons]
    unfold readEntries
    rw [named]
    change (if met.any (·.1 == field.1) then _ else _) = _
    rw [if_neg unmet, reads.read]
    change readEntries a (met ++ [(field.1, v)]) _ = _
    rw [rest, List.append_assoc]
    rfl

theorem ofValues_values (c : Command) : ofValues c.values c.action = .ok c := by
  cases c <;> rfl

/-- Only what stands under each name decides. -/
theorem ofValues_congr {met met' : List (String × Value)}
    (same : ∀ name, met.lookup name = met'.lookup name) (a : Action) :
    ofValues met a = ofValues met' a := by
  cases a <;> simp [ofValues, textField, flagField, sourceField, same]

theorem lookup_perm {met met' : List (String × Value)} (perm : met.Perm met')
    (distinct : (met.map Prod.fst).Nodup) (name : String) : met.lookup name = met'.lookup name := by
  induction perm with
  | nil => rfl
  | cons x _ ih =>
    rw [List.map_cons, List.nodup_cons] at distinct
    obtain ⟨first, v⟩ := x
    by_cases here : name = first <;> simp [List.lookup_cons, here, ih distinct.2]
  | swap x y l =>
    simp only [List.map_cons, List.nodup_cons, List.mem_cons, not_or] at distinct
    obtain ⟨first, v⟩ := x
    obtain ⟨second, v'⟩ := y
    have apart : second ≠ first := distinct.1.1
    by_cases here : name = first
    · subst here
      have other : (name == second) = false := beq_false_of_ne apart.symm
      simp [List.lookup_cons, other]
    · have other : (name == first) = false := beq_false_of_ne here
      simp [List.lookup_cons, other]
  | trans perm _ ih ih' =>
    rw [ih distinct, ih' ((perm.map Prod.fst).nodup_iff.1 distinct)]

/-! ## Commands -/

variable [MonadExcept DecodeError m] [LawfulMonad m] {F : Form ν m} {R : Json → ν → Prop} {n : ν}

theorem splitAction_field (shows : F.ShowsContents R) {depth : Nat} {name : String} {j : Json}
    {key value : ν} (no_action : name ≠ "action") (plain : j.Plain) (named : R (.str name) key)
    (valued : R j value) (action : Option Action) (contents : List (Content × Content)) :
    splitAction F depth (action, contents) (key, value) =
      pure (action, contents ++ [(.text name, j.content)]) := by
  have name_shown : F.content depth key = pure (.text name) := shows.content (.str name) named depth
  have value_shown := shows.content plain valued depth
  unfold splitAction
  simp only [name_shown, pure_bind, value_shown]
  split
  · rename_i same
    exact (no_action (Content.text.inj same)).elim
  · rfl

theorem splitAction_action (shows : F.ShowsContents R) {depth : Nat} {a : Action} {key value : ν}
    (named : R (.str "action") key) (valued : R (.str a.word) value)
    (contents : List (Content × Content)) :
    splitAction F depth (none, contents) (key, value) = pure (some a, contents) := by
  have name_shown : F.content depth key = pure (.text "action") :=
    shows.content (.str "action") named depth
  simp [splitAction, name_shown, Form.once, decodeAction, shows.text valued, Action.ofWord?_word]

/-- The entries are those of the members, in their order. -/
abbrev InOrder (R : Json → ν → Prop) : List (String × Json) → List (ν × ν) → Prop :=
  List.Forall₂ fun member e => R (.str member.1) e.1 ∧ R member.2 e.2

theorem foldlM_fields (shows : F.ShowsContents R) {depth : Nat} {fields : List (String × Json)}
    {entries : List (ν × ν)} (shown : InOrder R fields entries)
    (no_action : ∀ f ∈ fields, f.1 ≠ "action") (plain : ∀ f ∈ fields, f.2.Plain)
    (action : Option Action) (contents : List (Content × Content)) :
    entries.foldlM (splitAction F depth) (action, contents) =
      pure (action, contents ++ fields.map fun f => (.text f.1, f.2.content)) := by
  induction shown generalizing contents with
  | nil => simp
  | @cons field e fields entries here _ ih =>
    obtain ⟨no_action_here, no_action⟩ := List.forall_mem_cons.1 no_action
    obtain ⟨plain_here, plain⟩ := List.forall_mem_cons.1 plain
    rw [List.foldlM_cons, splitAction_field shows no_action_here plain_here here.1 here.2,
      pure_bind, ih no_action plain]
    simp

theorem InOrder.split : ∀ {before after : List (String × Json)} {entries : List (ν × ν)},
    InOrder R (before ++ after) entries → ∃ first last, entries = first ++ last ∧
      InOrder R before first ∧ InOrder R after last
  | [], _, entries, h => ⟨[], entries, rfl, .nil, h⟩
  | _ :: _, _, _, .cons here h => by
    obtain ⟨first, last, rfl, shown, shown'⟩ := InOrder.split h
    exact ⟨_ :: first, last, rfl, .cons here shown, shown'⟩

/-- The action is found wherever it stands, and the fields keep their order. -/
theorem foldlM_splitAction (shows : F.ShowsContents R) {a : Action}
    {fields : List (String × Json)} {entries : List (ν × ν)}
    (h : Form.Entries R (("action", .str a.word) :: fields) entries)
    (no_action : ∀ f ∈ fields, f.1 ≠ "action") (plain : ∀ f ∈ fields, f.2.Plain) (depth : Nat) :
    ∃ ordered : List (String × Json), ordered.Perm fields ∧
      entries.foldlM (splitAction F depth) (none, []) =
        pure (some a, ordered.map fun f => (.text f.1, f.2.content)) := by
  obtain ⟨ordered, perm, shown⟩ := h
  obtain ⟨before, after, rfl⟩ := List.append_of_mem (perm.subset List.mem_cons_self)
  have others : (before ++ after).Perm fields :=
    (List.perm_cons _).1 (List.perm_middle.symm.trans perm.symm)
  obtain ⟨first, last, rfl, shown_before, shown⟩ := InOrder.split shown
  obtain _ | ⟨action_shown, shown_after⟩ := shown
  have part : ∀ f, f ∈ before ∨ f ∈ after → f.1 ≠ "action" ∧ f.2.Plain := fun f hf =>
    ⟨no_action f (others.subset (List.mem_append.2 hf)),
      plain f (others.subset (List.mem_append.2 hf))⟩
  refine ⟨before ++ after, others, ?_⟩
  rw [List.foldlM_append, foldlM_fields shows shown_before (fun f hf => (part f (.inl hf)).1)
    (fun f hf => (part f (.inl hf)).2), pure_bind, List.foldlM_cons,
    splitAction_action shows action_shown.1 action_shown.2, pure_bind,
    foldlM_fields shows shown_after (fun f hf => (part f (.inr hf)).1)
      (fun f hf => (part f (.inr hf)).2)]
  simp

theorem decode_shown (shows : F.ShowsContents R) {c : Command} (h : R c.toJson n) (depth : Nat) :
    decodeWithin F depth n = pure c := by
  obtain ⟨es, fields, entries⟩ := shows.tagged h
  have no_action : ∀ f ∈ c.fields, f.1 ≠ "action" := by
    cases c <;> simp [Command.fields]
  have plain : ∀ f ∈ c.fields, f.2.Plain := ReadsBack.all_plain c.fields_readBack
  obtain ⟨ordered, perm, split⟩ := foldlM_splitAction shows entries no_action plain depth
  have read : ofContent c.action (.dictionary (ordered.map fun f => (.text f.1, f.2.content))) =
      .ok c := by
    obtain ⟨vs, reads, values⟩ := List.perm_comp_forall₂ perm c.fields_readBack
    have distinct : (vs.map Prod.fst).Nodup := by
      rw [(values.map Prod.fst).nodup_iff, names_values]
      exact c.action.distinct_fieldNames
    have known : ∀ f ∈ ordered, f.1 ∈ c.action.fieldNames := fun f hf => by
      rw [← names_fields]
      exact List.mem_map_of_mem (perm.subset hf)
    have met := readEntries_written reads known [] distinct
    have values_read := ofValues_congr (fun name => lookup_perm values distinct name) c.action
    change readEntries c.action [] _ >>= (ofValues · c.action) = _
    rw [met]
    exact values_read.trans c.ofValues_values
  simp [decodeWithin, decodeParts, fields, split, Form.required, read]

end Command

namespace Script

variable [MonadExcept DecodeError m] [LawfulMonad m] {F : Form ν m} {R : Json → ν → Prop} {n : ν}

theorem decode_shown (shows : F.ShowsContents R) {s : Script} (h : R s.toJson n) :
    decode F n = pure s := by
  obtain ⟨es, fields, ordered, perm, shown⟩ := shows.fields h
  obtain rfl := List.perm_singleton.1 perm.symm
  obtain _ | ⟨here, _ | _⟩ := shown
  have commands : decodeCommands F _ = pure s.commands :=
    shows.list (fun c _ n h => Command.decode_shown shows h _) here.2
  simp [decode, fields, meet, shows.fieldName here.1, Form.once, commands]

end Script

end ProjectPicker
