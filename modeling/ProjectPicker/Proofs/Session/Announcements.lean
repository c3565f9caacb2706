import ProjectPicker.Proofs.Session.Mirrors

/-!
# What announcements change

* `announced` : all that an announcement changes in a session;
* `announceAll_keeps` : what every announcement keeps, any number of them keep;
* `announceAll_chosen` : templates of the announced names are selected no longer, and all others
  stay selected;
* `announceAll_ready`, `announceAll_listed`, `announceAll_counted` : the ready list stays and so do
  the templates listed, and a count that is right stays right;
* `appended`, `add_deselects` : an import appends its batch before it announces it, and then none of
  the batch is selected.
-/

set_option autoImplicit false

namespace ProjectPicker.Session

variable {s s' : Session} {name : String} {names : List String}

/-- Listeners leave no trace but that they heard the name. -/
theorem foldl_hear_listeners {others : List (Nat × Subscriber)} (name : String) (s : Session)
    (hl : ∀ x ∈ others, ∃ listener, x.2 = .listener listener) :
    others.foldl (hear name) s =
      { s with notices := s.notices ++ others.map fun x => .heard x.2 name } := by
  induction others generalizing s with
  | nil => simp
  | cons x rest ih =>
    obtain ⟨id, who⟩ := x
    obtain ⟨listener, rfl⟩ := hl _ List.mem_cons_self
    rw [List.foldl_cons, ih _ fun y hy => hl y (List.mem_cons_of_mem _ hy)]
    simp [hear, note, react]

/-- All that an announcement changes: each field is emptied that names the project, the selector
forgets the project, and each subscriber heard of it in turn. -/
theorem announced (h : Wired s.channel) (name : String) :
    (s.announce name).2 = { s with
      git := if s.git.refersTo name then ⟨""⟩ else s.git
      zip := if s.zip.refersTo name then ⟨"", false⟩ else s.zip
      selector := (s.selector.added name s.board).1
      board := { s.board with
        gitLocation := if s.git.refersTo name then "" else s.board.gitLocation
        zipLocation := if s.zip.refersTo name then "" else s.board.zipLocation
        zipSkip := if s.zip.refersTo name then false else s.board.zipSkip
        chosen := if s.selector.concerns name then
          s.selector.selected.filter (·.name != name) else s.board.chosen }
      notices := s.notices ++ s.channel.subscribers.map fun x => .heard x.2 name } := by
  obtain ⟨others, ho, hl⟩ := h.views
  rw [announce_eq h.idle]
  dsimp only
  rw [ho]
  simp only [List.foldl_cons]
  rw [foldl_hear_listeners _ _ fun x hx => (hl x hx).2]
  simp only [hear, react_git, react_zip, react_selector, note, GitField.clear_fst,
    GitField.clear_snd, ZipField.clear_fst, ZipField.clear_snd, Selector.added_snd]
  rw [Selector.added_fst s.selector _ name s.board]
  simp

theorem announce_ready (wired : Wired s.channel) (name : String) :
    (s.announce name).2.board.ready = s.board.ready := by
  rw [announced wired]

theorem announce_listed (wired : Wired s.channel) (name : String) :
    (s.announce name).2.selector.listed = s.selector.listed := by
  rw [announced wired]
  exact Selector.added_listed s.selector s.board name

theorem announce_counted (wired : Wired s.channel) (counted : s.selector.Counted) (name : String) :
    (s.announce name).2.selector.Counted := by
  rw [announced wired]
  exact counted.added name s.board

/-- Whether or not the selector has to do with the project, the others stay selected. -/
theorem announce_chosen (wired : Wired s.channel) (inStep : InStep s) (name : String) :
    (s.announce name).2.board.chosen = s.board.chosen.filter (·.name != name) := by
  rw [announced wired]
  dsimp only
  split
  · rw [inStep.selected]
  · next h =>
    have unconcerned : ∀ t ∈ s.board.chosen, (t.name != name) = true := by
      simp only [Selector.concerns, inStep.selected, Bool.or_eq_true, not_or, List.any_eq_true,
        not_exists, not_and, beq_iff_eq] at h
      exact fun t ht => bne_iff_ne.2 (h.2 t ht)
    exact (List.filter_eq_self.2 unconcerned).symm

/-! ## Any number of announcements -/

/-- What every announcement keeps in a session whose views are in step, any number of them keep. -/
theorem announceAll_keeps {P : Session → Prop} (wired : Wired s.channel) (inStep : InStep s)
    (keeps : ∀ s name, Wired s.channel → InStep s → P s → P (s.announce name).2) (h : P s) :
    P (s.announceAll names) := by
  induction names generalizing s with
  | nil => exact h
  | cons name rest ih =>
    obtain ⟨wired', inStep'⟩ := stable_inStep.announce s name ⟨wired, inStep⟩
    exact ih wired' inStep' (keeps s name wired inStep h)

theorem announceAll_ready (wired : Wired s.channel) (inStep : InStep s) :
    (s.announceAll names).board.ready = s.board.ready :=
  announceAll_keeps (P := fun u => u.board.ready = s.board.ready) wired inStep
    (fun _ name wired _ h => (announce_ready wired name).trans h) rfl

theorem announceAll_listed (wired : Wired s.channel) (inStep : InStep s) :
    (s.announceAll names).selector.listed = s.selector.listed :=
  announceAll_keeps (P := fun u => u.selector.listed = s.selector.listed) wired inStep
    (fun _ name wired _ h => (announce_listed wired name).trans h) rfl

theorem announceAll_counted (wired : Wired s.channel) (inStep : InStep s)
    (counted : s.selector.Counted) : (s.announceAll names).selector.Counted :=
  announceAll_keeps wired inStep (fun _ name wired _ h => announce_counted wired h name) counted

/-- Exactly the templates of the announced names are selected no longer. -/
theorem announceAll_chosen (wired : Wired s.channel) (inStep : InStep s) :
    (s.announceAll names).board.chosen =
      s.board.chosen.filter (fun t => !names.contains t.name) := by
  induction names generalizing s with
  | nil => simp [announceAll]
  | cons name rest ih =>
    obtain ⟨wired', inStep'⟩ := stable_inStep.announce s name ⟨wired, inStep⟩
    calc (s.announceAll (name :: rest)).board.chosen
      _ = (s.announce name).2.board.chosen.filter (fun t => !rest.contains t.name) :=
        ih wired' inStep'
      _ = (s.board.chosen.filter (·.name != name)).filter (fun t => !rest.contains t.name) := by
        rw [announce_chosen wired inStep]
      _ = s.board.chosen.filter (fun t => !(name :: rest).contains t.name) := by
        rw [List.filter_filter]
        refine List.filter_congr fun t _ => ?_
        rw [List.contains_cons, Bool.not_or, Bool.and_comm]
        rfl

/-! ## Imports -/

/-- The session where a batch was appended to the ready list, and is not announced yet. -/
abbrev appended (s : Session) (batch : List Template) : Session :=
  { s with board := { s.board with ready := s.board.ready ++ batch } }

theorem InStep.appended (h : InStep s) (batch : List Template) : InStep (s.appended batch) :=
  ⟨h.git, h.zip, h.skip, h.selected, h.consistent⟩

theorem add_deselects (wired : Wired s.channel) (inStep : InStep s) {source : Source}
    (h : (add source).run s = .ok names s') :
    (Template.names s'.board.chosen).Disjoint names := by
  obtain ⟨batch, -, -, -, rfl⟩ := add_eq_ok h
  rw [announceAll_chosen (s := s.appended batch) wired (inStep.appended batch)]
  intro name chosen imported
  obtain ⟨t, ht, rfl⟩ := ReadyList.mem_names.1 chosen
  simpa [imported] using (List.mem_filter.1 ht).2

end ProjectPicker.Session
