import ProjectPicker.Loading
import ProjectPicker.Proofs.Command.Keys

/-!
# The keys of a script

* `Document.Tells` : a mapping among the commands names the action of its command and nothing but
  fields of that action;
* `Script.meet_unknown` : a key at the top that is not known is passed over;
* `Script.keys_below_top` : what the keys of a script file that is accepted can be. Each key of a
  command is one of its action, but at the top any key may stand, and makes no difference.
-/

set_option autoImplicit false

namespace ProjectPicker

open Yaml (Document Node Decoding)
open Yaml.Decoding (Yields yields_pure not_yields_throw)
open Yaml.Document (yields_toText yields_toItems yields_toFields)

/-- If the value is a mapping, its keys are the action of the command and fields of that action. -/
def Yaml.Document.Tells (d : Document) (n : Node) (c : Command) : Prop :=
  ∀ fields, d.entries? n = some fields → d.Keyed c.action fields

namespace Script

variable {d : Document}

theorem tells_of_yields {n : Node} {commands : List Command}
    (h : (decodeCommands d.form n).Yields commands) :
    ∃ items, d.items? n = some items ∧ List.Forall₂ d.Tells items commands := by
  obtain ⟨items, seen, h⟩ := h.bind
  refine ⟨items, yields_toItems seen, h.mapM.imp fun item command read => ?_⟩
  exact fun fields mapping => Command.keyed_of_yields read mapping

theorem yields_meet {met met' : Option (List Command)} {entry : Node × Node}
    (h : (meet d.form met entry).Yields met') :
    ∃ key, d.text? entry.1 = some key ∧
      ((key = "commands" ∧ met = none ∧
          ∃ commands, met' = some commands ∧ (decodeCommands d.form entry.2).Yields commands) ∨
        key ≠ "commands" ∧ met' = met) := by
  obtain ⟨key, seen, h⟩ := h.bind
  refine ⟨key, yields_toText seen, ?_⟩
  split at h
  · left
    obtain ⟨_, once, h⟩ := h.bind
    obtain ⟨commands, read, h⟩ := h.bind
    refine ⟨rfl, ?_, commands, (yields_pure.1 h).symm, read⟩
    unfold Form.once at once
    split at once
    · exact (not_yields_throw once).elim
    · rfl
  · rename_i unknown
    right
    obtain ⟨_, -, h⟩ := h.bind
    exact ⟨unknown, (yields_pure.1 h).symm⟩

/-- What the entries at the top come to: the one with the commands decides, and the others are
passed over. -/
theorem yields_entries :
    ∀ {entries : List (Node × Node)} {met met' : Option (List Command)},
      (entries.foldlM (meet d.form) met).Yields met' →
        (∀ e ∈ entries, ∃ key, d.text? e.1 = some key) ∧
        (∀ e ∈ entries, d.text? e.1 = some "commands" →
          met = none ∧ ∃ commands, met' = some commands ∧
            (decodeCommands d.form e.2).Yields commands) ∧
        ((∀ e ∈ entries, d.text? e.1 ≠ some "commands") → met' = met)
  | [], met, met', h => by simpa using (yields_pure.1 h).symm
  | entry :: rest, met, met', h => by
    rw [List.foldlM_cons] at h
    obtain ⟨met₁, first, h⟩ := h.bind
    obtain ⟨keys, decided, passed⟩ := yields_entries h
    obtain ⟨key, text, here⟩ := yields_meet first
    refine ⟨List.forall_mem_cons.2 ⟨⟨key, text⟩, keys⟩, ?_⟩
    rcases here with ⟨rfl, rfl, commands, rfl, read⟩ | ⟨unknown, rfl⟩
    · -- No later entry can be the commands again.
      have once : ∀ e ∈ rest, d.text? e.1 ≠ some "commands" := fun e he again => by
        cases (decided e he again).1
      constructor
      · intro e he named
        obtain rfl | he := List.mem_cons.1 he
        · exact ⟨rfl, commands, passed once, read⟩
        · exact (once e he named).elim
      · exact fun none_named => (none_named entry List.mem_cons_self text).elim
    · constructor
      · intro e he named
        obtain rfl | he := List.mem_cons.1 he
        · exact (unknown (Option.some.inj (text.symm.trans named))).elim
        · exact decided e he named
      · exact fun none_named => passed fun e he => none_named e (List.mem_cons_of_mem _ he)

/-- A key at the top that is not known is passed over with its value. -/
theorem meet_unknown {met : Option (List Command)} {tag : Option Yaml.Tag} {key : String}
    {plain : Bool} {value : Node} (unknown : key ≠ "commands") (complete : value.isComplete) :
    meet d.form met (.scalar tag key plain, value) = pure met := by
  have name : d.form.fieldName (.scalar tag key plain) = pure key := rfl
  have skipped : d.form.skip value = pure () := if_pos complete
  unfold meet
  simp only [name, skipped, pure_bind]

theorem decode_unknown {root : Option Yaml.Tag} {before after : List (Node × Node)}
    {tag : Option Yaml.Tag} {key : String} {plain : Bool} {value : Node}
    (unknown : key ≠ "commands") (complete : value.isComplete) :
    decode d.form (.mapping root (before ++ (.scalar tag key plain, value) :: after)) =
      decode d.form (.mapping root (before ++ after)) := by
  have named : ∀ entries : List (Node × Node),
      d.form.fields (.mapping root entries) = pure (.named entries) := fun _ => rfl
  unfold decode
  simp only [named, pure_bind, List.foldlM_append, List.foldlM_cons, meet_unknown unknown complete]

/-- The keys of a script file that is accepted. Each command that is a mapping names its action and
besides only fields of it, none twice. At the top every key is a text; the commands are those of
the key for them, and without it there are none. Any other key is passed over with its value, and
the script is the one without it. -/
theorem keys_below_top (path : String) (octets : Except FileError (List UInt8)) (script : Script)
    (accepted : ofFile path octets = .ok script) :
    ∃ text, Catalogue.fileText octets = .ok text ∧
      let d := Document.read text
      (∀ entries, d.entries? d.root = some entries →
        (∀ e ∈ entries, ∃ key, d.text? e.1 = some key) ∧
        (∀ e ∈ entries, d.text? e.1 = some "commands" →
          ∃ items, d.items? e.2 = some items ∧ List.Forall₂ d.Tells items script.commands) ∧
        ((∀ e ∈ entries, d.text? e.1 ≠ some "commands") → script.commands = [])) ∧
      ∀ root before after tag key plain value, key ≠ "commands" → value.isComplete →
        decode d.form (.mapping root (before ++ (.scalar tag key plain, value) :: after)) =
          decode d.form (.mapping root (before ++ after)) := by
  unfold ofFile decodeFile at accepted
  split at accepted
  · cases accepted
  rename_i text read
  refine ⟨text, read, fun entries mapping => ?_,
    fun root before after tag key plain value => decode_unknown⟩
  have decoded : (decode (Document.read text).form (Document.read text).root).Yields script := by
    split at accepted
    · rename_i read
      exact Except.ok.inj accepted ▸ (Yaml.yields_of_decode read).1
    · cases accepted
  obtain ⟨fields, seen, decoded⟩ := decoded.bind
  obtain rfl := yields_toFields mapping seen
  obtain ⟨met, entered, decoded⟩ := decoded.bind
  obtain rfl := yields_pure.1 decoded
  obtain ⟨keys, decided, passed⟩ := yields_entries entered
  refine ⟨keys, fun e he named => ?_, fun none_named => ?_⟩
  · obtain ⟨-, commands, rfl, read⟩ := decided e he named
    exact tells_of_yields read
  · rw [passed none_named]
    rfl

/-- A script whose commands are misspelt once, and then are not. -/
def misspeltOnce : String :=
  "comands: []\ncommands:\n- location: x\n  action: set_git_location\n"

/-- It is accepted. The keys of its command are those of the action, and one more key at the top
would make no difference either. -/
theorem keys_below_top_misspelt :
    ofFile "script.yaml" (.ok misspeltOnce.toUTF8.toList) = .ok ⟨[.setGitLocation "x"]⟩ ∧
      let d := Document.read misspeltOnce
      ∃ entries items,
        d.entries? d.root = some entries ∧
          entries.map (fun e => d.text? e.1) = [some "comands", some "commands"] ∧
          List.Forall₂ d.Tells items [.setGitLocation "x"] ∧
          decode d.form (.mapping none ([] ++ (.scalar none "command" true, .empty) :: entries)) =
            decode d.form (.mapping none ([] ++ entries)) := by
  have accepted : ofFile "script.yaml" (.ok misspeltOnce.toUTF8.toList) =
      .ok ⟨[.setGitLocation "x"]⟩ := by
    decide +kernel
  obtain ⟨text, read, known, ignored⟩ := keys_below_top _ _ _ accepted
  refine ⟨accepted, ?_⟩
  obtain rfl : misspeltOnce = text := by
    have same : Catalogue.fileText (.ok misspeltOnce.toUTF8.toList) = .ok misspeltOnce := by
      decide +kernel
    exact Except.ok.inj (same.symm.trans read)
  have top : ((Document.read misspeltOnce).entries? (Document.read misspeltOnce).root).map
      (fun entries => entries.map fun e => (Document.read misspeltOnce).text? e.1) =
        some [some "comands", some "commands"] := by
    decide +kernel
  obtain ⟨entries, found, keys⟩ := Option.map_eq_some_iff.1 top
  obtain ⟨first, rest, rfl, -, others⟩ := List.map_eq_cons_iff.1 keys
  obtain ⟨second, last, rfl, commands, -⟩ := List.map_eq_cons_iff.1 others
  obtain ⟨items, -, tells⟩ := (known _ found).2.1 second (by simp) commands
  exact ⟨_, items, found, keys, tells, ignored _ _ _ _ _ _ _ (by decide) rfl⟩

def misspelt : String := "comands:\n- action: select_stack\n  stack_id: java-default\n"

/-- It is accepted, as a script without commands. -/
theorem misspelt_accepted :
    ofFile "script.yaml" (.ok misspelt.toUTF8.toList) = .ok ⟨[]⟩ ∧
      ((Document.read misspelt).entries? (Document.read misspelt).root).map
        (fun entries => entries.map fun e => (Document.read misspelt).text? e.1) =
          some [some "comands"] := by
  decide +kernel

end Script

end ProjectPicker
