import Mathlib.Data.List.Induction
import ProjectPicker.Proofs.Session.Announcements

/-!
# What an operation comes to

* `Operation.plain` : a command is the operation that it stands for;
* `Writes` : an operation is granted that puts a template into the ready list in the place of
  another;
* `Effect`, `operate_effect` : all that an operation can come to, granted or refused;
* `distinct_run` : the names of the ready list are distinct after every run;
* `along_iff` : if the operations that break a property are known, it holds all along a run exactly
  if none of those is in the run.
-/

set_option autoImplicit false

namespace ProjectPicker.Session

variable {ε : Type} {s s' : Session} {op : Operation ε} {t : Template}

/-! ## Commands -/

def Operation.ofCommand : Command → Operation ε
  | .selectStack id => .selectStack id
  | .setGitLocation location => .typeGit location
  | .setZipLocation location skip => .typeZip location skip
  | .toggleTemplate name checked => .toggle name checked
  | .addFromSource source => .add source
  | .renameProject old new => .rename old new

def Operation.plain : Operation ε → Operation ε
  | .apply command => .ofCommand command
  | op => op

theorem operate_plain (op : Operation ε) (s : Session) : operate op.plain s = operate op s := by
  cases op with
  | apply command =>
    cases command with
    | addFromSource source =>
      simp only [Operation.plain, Operation.ofCommand, operate, apply, Attempt.after,
        EStateM.run_bind]
      cases (add source).run s <;> rfl
    | _ => rfl
  | _ => rfl

/-! ## Effects -/

/-- The operation is granted, and puts `t` into the ready list in the place of another project. -/
inductive Writes (s : Session) : Operation ε → Template → Prop
  | rename {old new : String} {e : Editor} {s' : Session} (opened : (edit old).run s = .ok e s)
      (granted : (rename old new).run s = .ok () s') :
      Writes s (.rename old new) { e.draft with name := new, path := "/" ++ new }
  | revise {name : String} {edits : Template → Template} {e : Editor} {s' : Session}
      (opened : (edit name).run s = .ok e s) (granted : (revise name edits).run s = .ok () s') :
      Writes s (.revise name edits) (edits e.draft)
  | save {e e' : Editor} {s' : Session} (granted : save.run (e, s) = .ok () (e', s')) :
      Writes s (.save e) e.draft

abbrev written (s : Session) (ready : List Template) (t : Template) : Session :=
  { s with board := { s.board with ready, edited := some t } }

theorem Writes.operated (h : Writes s op t) :
    ∃ old ready, ReadyList.replace s.board.ready old t = .ok ready ∧
      operate op s = s.written ready t := by
  cases h with
  | @rename old _ _ _ opened granted =>
    obtain ⟨e, he, -, ready, hr, rfl⟩ := rename_granted granted
    cases opened.symm.trans he
    exact ⟨old, ready, hr, Attempt.after_of_ok granted⟩
  | @revise name _ _ _ opened granted =>
    obtain ⟨e, he, -, ready, hr, rfl⟩ := revise_granted granted
    cases opened.symm.trans he
    exact ⟨name, ready, hr, Attempt.after_of_ok granted⟩
  | @save e _ _ granted =>
    obtain ⟨-, -, ready, hr, rfl⟩ := save_eq_ok granted
    exact ⟨e.knownAs, ready, hr, congrArg Prod.snd (Attempt.after_of_ok granted)⟩

/-- Whatever is written has a name that a project may be saved under. -/
theorem Writes.valid (h : Writes s op t) : ProjectName.isValid t.name = true := by
  cases h with
  | rename opened granted =>
    obtain ⟨e, he, valid, -⟩ := rename_granted granted
    exact valid
  | revise opened granted =>
    obtain ⟨e, he, valid, -⟩ := revise_granted granted
    cases opened.symm.trans he
    exact valid
  | save granted => exact (save_eq_ok granted).1

/-- What an operation can come to: nothing if it is refused, and else its change. -/
inductive Effect (s : Session) : Operation ε → Session → Prop
  | refused {op : Operation ε} : Effect s op s
  | load {catalogue : List Template} :
      Effect s (.load (.ok catalogue)) { s with
        board := { s.board with catalogue }
        selector := s.selector.fetched { s.board with catalogue } }
  | selectStack {id : Option String} : Effect s (.selectStack id) (s.activate id)
  | typeGit {location : String} : Effect s (.typeGit location) (s.typeGit location)
  | typeZip {location : String} {skip : Bool} :
      Effect s (.typeZip location skip) (s.typeZip location skip)
  | toggle {name : String} {checked : Bool} :
      Effect s (.toggle name checked) (s.toggle name checked)
  | add {source : Source} {batch : List Template} (offered : s.board.candidates source = .ok batch)
      (fresh : ReadyList.append s.board.ready batch = .ok (s.board.ready ++ batch)) :
      Effect s (.add source)
        ((s.appended batch).announceAll (Template.names batch))
  | write {op : Operation ε} {old : String} {t : Template} {ready : List Template}
      (writes : Writes s op t) (replaced : ReadyList.replace s.board.ready old t = .ok ready) :
      Effect s op (s.written ready t)
  | publish {name : String} : Effect s (.publish name) (s.announce name).2
  | listen {name : String} : Effect s (.listen name) (s.listen name)
  | unlisten {name : String} : Effect s (.unlisten name) (s.unlisten name).2

theorem Writes.effect (h : Writes s op t) : Effect s op (operate op s) := by
  obtain ⟨old, ready, hr, ho⟩ := h.operated
  rw [ho]
  exact .write h hr

theorem effect_selectStack (id : Option String) (s : Session) :
    Effect s (.selectStack id : Operation ε) ((selectStack id).after s) := by
  rcases (atomic_selectStack id).after_cases s with ⟨x, h⟩ | h
  · rw [selectStack_eq_ok h]
    exact .selectStack
  · rw [h]
    exact .refused

theorem effect_add (source : Source) (s : Session) :
    Effect s (.add source : Operation ε) ((add source).after s) := by
  rcases (atomic_add source).after_cases s with ⟨names, h⟩ | h
  · obtain ⟨batch, offered, rfl, fresh, hs⟩ := add_eq_ok h
    rw [hs]
    exact .add offered fresh
  · rw [h]
    exact .refused

theorem effect_rename (old new : String) (s : Session) :
    Effect s (.rename old new : Operation ε) ((rename old new).after s) := by
  rcases (atomic_rename old new).after_cases s with ⟨x, h⟩ | h
  · obtain ⟨e, opened, -⟩ := rename_granted h
    exact (Writes.rename opened h).effect
  · rw [h]
    exact .refused

theorem effect_revise (name : String) (edits : Template → Template) (s : Session) :
    Effect s (.revise name edits : Operation ε) ((revise name edits).after s) := by
  rcases (atomic_revise name edits).after_cases s with ⟨x, h⟩ | h
  · obtain ⟨e, opened, -⟩ := revise_granted h
    exact (Writes.revise opened h).effect
  · rw [h]
    exact .refused

theorem effect_save (e : Editor) (s : Session) :
    Effect s (.save e : Operation ε) (save.after (e, s)).2 := by
  rcases atomic_save.after_cases (e, s) with ⟨x, h⟩ | h
  · exact (Writes.save h).effect
  · rw [h]
    exact .refused

/-- Whatever is done with a session comes to one of its effects. -/
theorem operate_effect (s : Session) (op : Operation ε) : Effect s op.plain (operate op s) := by
  cases op with
  | load fetched =>
    cases fetched with
    | ok catalogue => exact .load
    | error r => exact .refused
  | selectStack id => exact effect_selectStack id s
  | typeGit location => exact .typeGit
  | typeZip location skip => exact .typeZip
  | toggle name checked => exact .toggle
  | add source => exact effect_add source s
  | rename old new => exact effect_rename old new s
  | revise name edits => exact effect_revise name edits s
  | save e => exact effect_save e s
  | publish name => exact .publish
  | listen name => exact .listen
  | unlisten name => exact .unlisten
  | apply command =>
    rw [← operate_plain]
    cases command with
    | selectStack id => exact effect_selectStack id s
    | setGitLocation location => exact .typeGit
    | setZipLocation location skip => exact .typeZip
    | toggleTemplate name checked => exact .toggle
    | addFromSource source => exact effect_add source s
    | renameProject old new => exact effect_rename old new s

/-! ## All along a run -/

theorem run_concat (s : Session) (ops : List (Operation ε)) (op : Operation ε) :
    s.run (ops ++ [op]) = operate op (s.run ops) := by
  simp [run]

/-- Whatever is done with a session keeps the names of the ready list distinct. -/
theorem distinct_of_effect (wired : Wired s.channel) (inStep : InStep s)
    (distinct : ReadyList.Distinct s.board.ready) (h : Effect s op s') :
    ReadyList.Distinct s'.board.ready := by
  cases h with
  | @add _ batch _ fresh =>
    rw [announceAll_ready (s := s.appended batch) wired (inStep.appended batch)]
    exact distinct.append fresh
  | write _ replaced => exact distinct.replace replaced
  | publish =>
    rw [announce_ready wired]
    exact distinct
  | _ => exact distinct

theorem distinct_run (stackList : List Stack) (ops : List (Operation ε)) :
    ReadyList.Distinct ((start stackList).run ops).board.ready := by
  induction ops using List.reverseRecOn with
  | nil => exact ReadyList.distinct_nil
  | append_singleton before op ih =>
    obtain ⟨wired, inStep⟩ := run_inStep stackList before
    rw [run_concat]
    exact distinct_of_effect wired inStep ih (operate_effect _ op)

/-- If a property is broken exactly by certain operations, it holds all along a run exactly if none
of these is in the run. -/
theorem along_iff {I P : Session → Prop} {Breaks : Session → Operation ε → Prop} (hI : Stable I)
    (hs : I s) (hP : P s)
    (step : ∀ s op, I s → P s → (P (operate op s) ↔ ¬ Breaks s op)) (ops : List (Operation ε)) :
    (∀ before, before <+: ops → P (s.run before)) ↔
      ∀ before op after, ops = before ++ op :: after → ¬ Breaks (s.run before) op := by
  constructor
  · rintro along before op after rfl
    have earlier : P (s.run before) := along before (List.prefix_append _ _)
    have later : P (s.run (before ++ [op])) := along (before ++ [op]) ⟨after, by simp⟩
    rw [run_concat] at later
    exact (step _ op (hI.run before hs) earlier).1 later
  · intro unbroken before
    -- From the right: the operation that comes last was applied to the run of those before it.
    induction before using List.reverseRecOn with
    | nil => exact fun _ => hP
    | append_singleton before op ih =>
      rintro ⟨after, rfl⟩
      rw [run_concat]
      have earlier : P (s.run before) := ih ⟨op :: after, by simp⟩
      exact (step _ op (hI.run before hs) earlier).2 (unbroken before op after (by simp))

end ProjectPicker.Session
