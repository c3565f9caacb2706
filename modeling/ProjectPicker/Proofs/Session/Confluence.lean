import ProjectPicker.Proofs.Session.Announcements

/-!
# Announcements in any order

* `Checks.uncheck`, `Selector.without` : what no longer shows any project of some names;
* `Selector.heard` : the selector after all of these projects were added, in one step;
* `added_eq_heard`, `heard_heard` : adding one project and then others is adding all of them;
* `Session.told`, `announceAll_eq` : so the announcements of any names come to one change of the
  session, which looks at the names as a set;
* `announcements_commute` : in every session that a run leads to, it does not matter in which order
  and how often names are published.
-/

set_option autoImplicit false

namespace ProjectPicker

theorem any_congr {names others : List String} (same : ∀ name, name ∈ names ↔ name ∈ others)
    (p : String → Bool) : names.any p = others.any p := by
  rw [Bool.eq_iff_iff, List.any_eq_true, List.any_eq_true]
  simp only [same]

namespace Checks

variable {c : Checks} {name : String} {names others : List String}

def uncheck (c : Checks) (names : List String) : Checks :=
  c.map fun box => (box.1, box.2 && !names.contains box.1)

theorem put_false : c.put name false = c.uncheck [name] := by
  refine List.map_congr_left fun box _ => ?_
  by_cases h : box.1 = name <;> simp [h]

theorem uncheck_uncheck : (c.uncheck names).uncheck others = c.uncheck (names ++ others) := by
  simp [uncheck, Bool.and_assoc]

theorem uncheck_of_forall (h : ∀ name ∈ names, c.hasBox name = false) : c.uncheck names = c := by
  refine (List.map_congr_left fun box hb => ?_).trans (List.map_id c)
  have unboxed : names.contains box.1 = false := by
    rw [← Bool.not_eq_true, List.contains_iff_mem]
    intro hn
    have boxed : c.hasBox box.1 = true := hasBox_iff.2 (List.mem_map_of_mem hb)
    rw [h box.1 hn] at boxed
    cases boxed
  rw [unboxed, Bool.not_false, Bool.and_true]
  rfl

end Checks

namespace Selector

variable {s : Selector} {b : Board} {name : String} {names others : List String}

/-- Nothing of these names is checked or selected. The count is as it was. -/
def without (s : Selector) (names : List String) : Selector :=
  { s with
    checks := s.checks.uncheck names
    selected := s.selected.filter fun t => !names.contains t.name }

theorem without_without : (s.without names).without others = s.without (names ++ others) := by
  simp [without, Checks.uncheck_uncheck, Bool.and_comm]

theorem recount_without_recount (s : Selector) (names : List String) :
    (s.recount.without names).recount = (s.without names).recount := rfl

theorem without_of_unconcerned (h : names.any s.concerns = false) : s.without names = s := by
  have apart : ∀ name ∈ names, s.checks.hasBox name = false ∧ ∀ t ∈ s.selected, t.name ≠ name := by
    simpa [concerns] using h
  have checks : s.checks.uncheck names = s.checks :=
    Checks.uncheck_of_forall fun name hn => (apart name hn).1
  have selected : (s.selected.filter fun t => !names.contains t.name) = s.selected := by
    refine List.filter_eq_self.2 fun t ht => ?_
    rw [Bool.not_eq_true', ← Bool.not_eq_true, List.contains_iff_mem]
    exact fun hn => (apart t.name hn).2 t ht rfl
  rw [without, checks, selected]

/-- The selector once all of these projects were added. It counts anew if it has to do with one of
them. -/
def heard (s : Selector) (names : List String) : Selector :=
  if names.any s.concerns then (s.without names).recount else s

theorem heard_of_concerned (h : names.any s.concerns = true) :
    s.heard names = (s.without names).recount := if_pos h

theorem heard_of_unconcerned (h : names.any s.concerns = false) : s.heard names = s :=
  if_neg (ne_true_of_eq_false h)

theorem added_eq_heard : (added name s b).1 = s.heard [name] := by
  rw [added, heard, List.any_cons, List.any_nil, Bool.or_false, apply_ite Prod.fst]
  simp only [select, without, Checks.put_false, List.contains_cons, List.contains_nil,
    Bool.or_false]
  rfl

/-- One project and then the others: it does not matter that the selector may have to do with fewer
of them by then. -/
theorem heard_heard : (s.heard names).heard others = s.heard (names ++ others) := by
  cases first : names.any s.concerns with
  | true =>
    have all : (names ++ others).any s.concerns = true := by simp [first]
    rw [heard_of_concerned first, heard_of_concerned all, ← without_without]
    cases later : others.any (s.without names).recount.concerns with
    | true => rw [heard_of_concerned later, recount_without_recount]
    | false =>
      rw [heard_of_unconcerned later, ← recount_without_recount (s.without names),
        without_of_unconcerned later]
      rfl
  | false =>
    have all : (names ++ others).any s.concerns = others.any s.concerns := by simp [first]
    rw [heard_of_unconcerned first, heard, heard, all, ← without_without,
      without_of_unconcerned first]

theorem heard_congr (same : ∀ name, name ∈ names ↔ name ∈ others) :
    s.heard names = s.heard others := by
  have contains : ∀ name, names.contains name = others.contains name := by
    intro name
    rw [Bool.eq_iff_iff, List.contains_iff_mem, List.contains_iff_mem, same]
  simp only [heard, any_congr same, without, Checks.uncheck, contains]

end Selector

/-! ## The fields -/

def GitField.heard (f : GitField) (names : List String) : GitField :=
  if names.any f.refersTo then ⟨""⟩ else f

theorem GitField.heard_heard (f : GitField) (names others : List String) :
    (f.heard names).heard others = f.heard (names ++ others) := by
  cases first : names.any f.refersTo <;> simp [heard, first]

def ZipField.heard (f : ZipField) (names : List String) : ZipField :=
  if names.any f.refersTo then ⟨"", false⟩ else f

theorem ZipField.heard_heard (f : ZipField) (names others : List String) :
    (f.heard names).heard others = f.heard (names ++ others) := by
  cases first : names.any f.refersTo <;> simp [heard, first]

namespace Session

variable {ε : Type} {s : Session} {name : String} {names others : List String}

/-- The session once all of these projects were announced. -/
def told (s : Session) (names : List String) : Session :=
  { s with
    git := s.git.heard names
    zip := s.zip.heard names
    selector := s.selector.heard names
    board := { s.board with
      gitLocation := (s.git.heard names).location
      zipLocation := (s.zip.heard names).location
      zipSkip := (s.zip.heard names).skip
      chosen := (s.selector.heard names).selected }
    notices := s.notices ++
      names.flatMap fun name => s.channel.subscribers.map fun x => .heard x.2 name }

theorem told_told : (s.told names).told others = s.told (names ++ others) := by
  simp only [told, GitField.heard_heard, ZipField.heard_heard, Selector.heard_heard,
    List.flatMap_append, List.append_assoc]

theorem told_nil (inStep : InStep s) : s.told [] = s := by
  have git : s.git.heard [] = s.git := rfl
  have zip : s.zip.heard [] = s.zip := rfl
  have selector : s.selector.heard [] = s.selector := rfl
  rw [told, git, zip, selector, inStep.git, inStep.zip, inStep.skip, inStep.selected]
  simp

theorem announce_eq_told (wired : Wired s.channel) (inStep : InStep s) (name : String) :
    (s.announce name).2 = s.told [name] := by
  have git : s.git.heard [name] = if s.git.refersTo name then ⟨""⟩ else s.git := by
    simp [GitField.heard]
  have zip : s.zip.heard [name] = if s.zip.refersTo name then ⟨"", false⟩ else s.zip := by
    simp [ZipField.heard]
  have selected : (s.selector.heard [name]).selected =
      if s.selector.concerns name then s.selector.selected.filter (·.name != name)
      else s.board.chosen := by
    rw [← Selector.added_eq_heard (b := s.board), Selector.added_selected, inStep.selected]
  rw [announced wired, told, git, zip, selected, ← Selector.added_eq_heard (b := s.board),
    apply_ite GitField.location, apply_ite ZipField.location, apply_ite ZipField.skip, inStep.git,
    inStep.zip, inStep.skip]
  simp

/-- Any announcements, one after the other, come to one change. -/
theorem announceAll_eq (wired : Wired s.channel) (inStep : InStep s) (names : List String) :
    s.announceAll names = s.told names := by
  induction names generalizing s with
  | nil => exact (told_nil inStep).symm
  | cons name rest ih =>
    obtain ⟨wired', inStep'⟩ := stable_inStep.announce s name ⟨wired, inStep⟩
    calc s.announceAll (name :: rest)
      _ = (s.announce name).2.told rest := ih wired' inStep'
      _ = (s.told [name]).told rest := by rw [announce_eq_told wired inStep]
      _ = s.told (name :: rest) := told_told

theorem run_publish (s : Session) (names : List String) :
    s.run (names.map fun name => (.publish name : Operation ε)) = s.announceAll names := by
  rw [run, List.foldl_map]
  rfl

/-- In every session that a run leads to, all that publishing some names does to the fields, to the
selector and to the board depends on which names they are, and neither on their order nor on how
often each is published. -/
theorem announcements_commute (stackList : List Stack) (ops : List (Operation ε))
    (names others : List String) (same : ∀ name, name ∈ names ↔ name ∈ others) :
    let s := (start stackList).run ops
    let t := s.run (names.map fun name => (.publish name : Operation ε))
    let u := s.run (others.map fun name => (.publish name : Operation ε))
    t.git = u.git ∧ t.zip = u.zip ∧ t.selector = u.selector ∧ t.board = u.board := by
  intro s t u
  obtain ⟨wired, inStep⟩ : Wired s.channel ∧ InStep s := run_inStep stackList ops
  have ht : t = s.told names := (run_publish s names).trans (announceAll_eq wired inStep names)
  have hu : u = s.told others := (run_publish s others).trans (announceAll_eq wired inStep others)
  have git : s.git.heard names = s.git.heard others := by
    rw [GitField.heard, any_congr same]
    rfl
  have zip : s.zip.heard names = s.zip.heard others := by
    rw [ZipField.heard, any_congr same]
    rfl
  have selector : s.selector.heard names = s.selector.heard others := Selector.heard_congr same
  rw [ht, hu]
  refine ⟨git, zip, selector, ?_⟩
  rw [told, told, git, zip, selector]

/-- A session where a template is selected, and the location of a repository is typed. -/
def occupied : Session :=
  (start [⟨"s", "", ["x"]⟩]).run
    [(.load (.ok [{ name := "a", tags := ["x"] }]) : Operation Empty), .selectStack (some "s"),
      .toggle "a" true, .typeGit "https://host/b.git"]

/-- Both lists empty the field and the selection. -/
theorem announcements_commute_occupied :
    (∀ name, name ∈ ["b", "a", "b"] ↔ name ∈ ["a", "b"]) ∧
      let t := occupied.run (["b", "a", "b"].map fun name => (.publish name : Operation Empty))
      let u := occupied.run (["a", "b"].map fun name => (.publish name : Operation Empty))
      (t.git = u.git ∧ t.zip = u.zip ∧ t.selector = u.selector ∧ t.board = u.board) ∧
        (occupied.git.location = "https://host/b.git" ∧ u.git.location = "") ∧
        occupied.board.chosen = [{ name := "a", tags := ["x"] }] ∧ u.board.chosen = [] := by
  have same : ∀ name, name ∈ ["b", "a", "b"] ↔ name ∈ ["a", "b"] := by
    intro name
    simp only [List.mem_cons, List.not_mem_nil]
    tauto
  obtain ⟨wired, inStep⟩ : Wired occupied.channel ∧ InStep occupied := run_inStep _ _
  have location : occupied.git = ⟨"https://host/b.git"⟩ := rfl
  have chosen : occupied.board.chosen = [{ name := "a", tags := ["x"] }] := by decide +kernel
  refine ⟨same, announcements_commute _ _ _ _ same, ⟨by rw [location], ?_⟩, chosen, ?_⟩
  · rw [run_publish, announceAll_eq wired inStep, told]
    dsimp only
    rw [location]
    decide
  · rw [run_publish, announceAll_chosen wired inStep, chosen]
    rfl

end Session

end ProjectPicker
