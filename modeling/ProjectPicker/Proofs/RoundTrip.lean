import ProjectPicker.Proofs.Command.Shown
import ProjectPicker.Proofs.Json.Reordered
import ProjectPicker.Proofs.Json.Textual

/-!
# What is written is read back

* `Json.decode_reordered` : a value is decoded from the text of its JSON, and from that of its JSON
  with the members of any of its objects in another order.
-/

set_option autoImplicit false

namespace ProjectPicker

namespace Json

/-- JSON shows the contents of plain values as well. -/
theorem form_showsContents : form.ShowsContents Reordered where
  toShows := form_shows
  content plain h depth := by
    cases plain with
    | null =>
      rw [h.eq_of_scalar (by simp) (by simp)]
      cases depth <;> rfl
    | bool b =>
      rw [h.eq_of_scalar (by simp) (by simp)]
      cases depth <;> rfl
    | str s =>
      rw [h.eq_of_scalar (by simp [str]) (by simp [str])]
      cases depth <;> rfl
  tagged h := form_shows.fields h

/-! ## What is written has no numbers -/

theorem Numberless.record {ms : List (String × Json)} (h : ∀ m ∈ ms, Numberless m.2) :
    Numberless (.record ms) :=
  .object
    (fun m hm => by
      obtain ⟨m, -, rfl⟩ := List.mem_map.1 hm
      exact ⟨m.1, rfl⟩)
    (fun m hm => by
      obtain ⟨m, member, rfl⟩ := List.mem_map.1 hm
      exact h m member)

theorem Textual.numberless {j : Json} (textual : Textual j) : Numberless j := by
  induction textual with
  | str s => exact .str s
  | array _ ih => exact .array ih
  | record _ ih => exact .record ih

theorem Plain.numberless {j : Json} (h : j.Plain) : Numberless j := by
  cases h with
  | null => exact .null
  | bool b => exact .bool b
  | str s => exact .str s

theorem numberless_command (c : Command) : Numberless c.toJson := by
  refine .record (List.forall_mem_cons.2 ⟨.str _, fun f hf => ?_⟩)
  exact (Command.ReadsBack.all_plain c.fields_readBack f hf).numberless

theorem numberless_script (s : Script) : Numberless s.toJson := by
  refine .record (List.forall_mem_singleton.2 (.array fun j hj => ?_))
  obtain ⟨c, -, rfl⟩ := List.mem_map.1 hj
  exact numberless_command c

/-! ## Decoding -/

theorem decode_of_reordered {α : Type}
    {decoder : Form Json (Except DecodeError) → Json → Except DecodeError α} {j j' : Json} {a : α}
    (plain : Numberless j) (h : Reordered j j') (read : decoder form j' = pure a) :
    decode decoder j'.compact = .ok a := by
  unfold decode
  rw [read_compact (plain.reordered h)]
  simp only [read]
  rfl

/-- A template, a stack, a source, a command and a script are decoded from the text of their JSON,
whatever texts, tags and parameters they hold, and from that of the same JSON with the members of
its objects in any order. -/
theorem decode_reordered :
    (∀ (t : Template) (j : Json), Reordered t.toJson j →
      decode Template.decode j.compact = .ok t) ∧
    (∀ (s : Stack) (j : Json), Reordered s.toJson j → decode Stack.decode j.compact = .ok s) ∧
    (∀ (s : SourceLocation) (j : Json), Reordered s.toJson j →
      decode SourceLocation.decode j.compact = .ok s) ∧
    (∀ (c : Command) (j : Json), Reordered c.toJson j →
      decode Command.decode j.compact = .ok c) ∧
    ∀ (s : Script) (j : Json), Reordered s.toJson j → decode Script.decode j.compact = .ok s := by
  refine ⟨fun t j h => ?_, fun s j h => ?_, fun s j h => ?_, fun c j h => ?_, fun s j h => ?_⟩
  · exact decode_of_reordered t.textual.numberless h (Template.decode_shown form_shows h)
  · exact decode_of_reordered s.textual.numberless h (Stack.decode_shown form_shows h)
  · exact decode_of_reordered s.textual.numberless h (SourceLocation.decode_shown form_shows h)
  · exact decode_of_reordered (numberless_command c) h
      (Command.decode_shown form_showsContents h _)
  · exact decode_of_reordered (numberless_script s) h (Script.decode_shown form_showsContents h)

/-- A command whose action comes last, and a template in whose source the type does. -/
theorem decode_reordered_action_last :
    decode Command.decode
      (record [("name", .str "\x22a\\\x07"), ("checked", .bool true),
        ("action", .str "toggle_template")]).compact = .ok (.toggleTemplate "\x22a\\\x07" true) ∧
    decode Template.decode
      (record [("name", .str "a"), ("displayName", .str ""), ("description", .str ""),
        ("projectType", .str ""), ("category", .str ""), ("tags", .strings ["x"]),
        ("path", .str ""),
        ("source", .record [("location", .str "l"), ("type", .str "git")])]).compact =
      .ok { name := "a", tags := ["x"], source := some { kind := "git", location := "l" } } := by
  obtain ⟨template, -, -, command, -⟩ := decode_reordered
  constructor
  · have last : ∀ a b c : Json × Json, ([a] ++ [b, c]).Perm ([b, c] ++ [a]) := fun _ _ _ =>
      List.perm_append_comm
    exact command (.toggleTemplate _ _) _ (.members (last _ _ _))
  · refine template _ _ (.member [(.str "name", .str "a"), (.str "displayName", .str ""),
      (.str "description", .str ""), (.str "projectType", .str ""), (.str "category", .str ""),
      (.str "tags", .strings ["x"]), (.str "path", .str "")] [] (.str "source")
      (.members (.swap _ _ _)))

end Json

end ProjectPicker
