import ProjectPicker.Proofs.Names
import ProjectPicker.Proofs.Session.Listing
import ProjectPicker.Proofs.Session.Novelty

/-!
# Which selections can be imported

* `add_iff_fits` : an import is granted if the source offers something, and the names of what it
  offers are distinct and free;
* `Unambiguous` : no stack lists two templates of a catalogue under one name. So it is if the names
  of the catalogue are distinct (`unambiguous_of_nodup`), but a catalogue is accepted without that
  (`twins_refused`);
* `distinct_listed_run`, `distinct_chosen_run` : over such catalogues the names of the listed and of
  the selected templates are distinct after every run;
* `import_granted_iff` : and only over such catalogues can every selection whose names are free be
  imported.
-/

set_option autoImplicit false

namespace ProjectPicker.Session

variable {ε : Type} {s s' : Session} {op : Operation ε} {ops : List (Operation ε)}
  {stackList : List Stack} {catalogue listed : List Template} {turns : List Turn} {turn : Turn}

/-- An import is granted exactly if what the source offers fits. -/
theorem add_iff_fits (s : Session) (source : Source) :
    (∃ names s', (add source).run s = .ok names s') ↔ s.board.Fits source := by
  constructor
  · rintro ⟨names, s', granted⟩
    obtain ⟨batch, candidates, -, fresh, -⟩ := add_eq_ok granted
    obtain ⟨distinct, free, -⟩ := ReadyList.append_eq_ok_iff.1 fresh
    rw [Board.candidates_eq] at candidates
    split at candidates
    · cases candidates
    · next offers =>
      cases candidates
      exact ⟨offers, distinct, free⟩
  · intro fits
    have candidates : s.board.candidates source = .ok (s.board.offered source) := by
      rw [Board.candidates_eq, if_neg fits.offers]
    exact ⟨_, _, add_granted candidates
      (ReadyList.append_eq_ok_iff.2 ⟨fits.distinct, fits.free, rfl⟩)⟩

/-! ## Catalogues -/

/-- No stack lists two templates of a catalogue under one name. -/
def Unambiguous (stackList : List Stack) (catalogue : List Template) : Prop :=
  ∀ id stack, Stack.find? stackList id = some stack →
    (Template.names (catalogue.filter fun t => t.Carries (lowerTags stack.tags))).Nodup

theorem nodup_names_filter {templates : List Template} (h : (Template.names templates).Nodup)
    (p : Template → Bool) : (Template.names (templates.filter p)).Nodup :=
  h.sublist (List.filter_sublist.map _)

theorem unambiguous_of_nodup (h : (Template.names catalogue).Nodup) :
    Unambiguous stackList catalogue :=
  fun _ _ _ => nodup_names_filter h _

/-! ## What is listed -/

theorem lastCatalogue_mem (turns : List Turn) :
    lastCatalogue turns = [] ∨ .loaded (lastCatalogue turns) ∈ turns := by
  induction turns with
  | nil => exact .inl rfl
  | cons turn earlier ih =>
    cases turn with
    | loaded catalogue => exact .inr List.mem_cons_self
    | activated stack => exact ih.imp_right (List.mem_cons_of_mem _)

theorem lastTags_mem (turns : List Turn) :
    lastTags turns = [] ∨
      ∃ stack, .activated stack ∈ turns ∧ lastTags turns = lowerTags stack.tags := by
  induction turns with
  | nil => exact .inl rfl
  | cons turn earlier ih =>
    cases turn with
    | loaded catalogue =>
      exact ih.imp_right fun ⟨stack, hm, tags⟩ => ⟨stack, List.mem_cons_of_mem _ hm, tags⟩
    | activated stack => exact .inr ⟨stack, List.mem_cons_self, rfl⟩

/-- A history of unambiguous catalogues lists no two templates under one name. -/
theorem ListedAfter.distinct (h : ListedAfter turns listed)
    (loaded : ∀ catalogue, .loaded catalogue ∈ turns → Unambiguous stackList catalogue)
    (activated : ∀ stack, .activated stack ∈ turns → ∃ id, Stack.find? stackList id = some stack) :
    (Template.names listed).Nodup := by
  induction h with
  | start => exact List.nodup_nil
  | stays _ _ ih =>
    exact ih (fun catalogue hm => loaded catalogue (List.mem_cons_of_mem _ hm))
      fun stack hm => activated stack (List.mem_cons_of_mem _ hm)
  | @anew turn earlier listed tagged sorted =>
    obtain untagged | ⟨stack, hs, tags⟩ := lastTags_mem (turn :: earlier)
    · exact absurd untagged tagged
    obtain ⟨id, found⟩ := activated stack hs
    rw [tags] at sorted
    refine (sorted.perm.map _).nodup_iff.2 ?_
    obtain none | hc := lastCatalogue_mem (turn :: earlier)
    · rw [none]
      exact List.nodup_nil
    · exact loaded _ hc id stack found

theorem mem_history :
    turn ∈ history stackList ops ↔ ∃ op ∈ ops, turn? stackList op = some turn := by
  rw [history, List.mem_reverse, List.mem_filterMap]

theorem eq_load_of_turn? (h : turn? stackList op = some (.loaded catalogue)) :
    op = .load (.ok catalogue) := by
  unfold turn? at h
  split at h
  · cases h
    rfl
  · simp at h
  · simp at h
  · cases h

theorem known_of_turn? {stack : Stack} (h : turn? stackList op = some (.activated stack)) :
    ∃ id, Stack.find? stackList id = some stack := by
  unfold turn? at h
  split at h
  · cases h
  · next id => exact ⟨id, by simpa using h⟩
  · next id => exact ⟨id, by simpa using h⟩
  · cases h

theorem distinct_listed_run
    (loaded : ∀ catalogue, .load (.ok catalogue) ∈ ops → Unambiguous stackList catalogue) :
    (Template.names ((start stackList).run ops).selector.listed).Nodup := by
  have follows : FollowsHistory stackList (history stackList ops) ((start stackList).run ops) :=
    .run stackList ops
  have unambiguous : ∀ catalogue, .loaded catalogue ∈ history stackList ops →
      Unambiguous stackList catalogue := by
    intro catalogue hm
    obtain ⟨op, ho, turn⟩ := mem_history.1 hm
    exact loaded catalogue (eq_load_of_turn? turn ▸ ho)
  have known : ∀ stack, .activated stack ∈ history stackList ops →
      ∃ id, Stack.find? stackList id = some stack := by
    intro stack hm
    obtain ⟨op, -, turn⟩ := mem_history.1 hm
    exact known_of_turn? turn
  exact follows.listed.distinct unambiguous known

/-! ## What is selected -/

/-- A click selects among what is listed, and nothing else adds to the selection. -/
theorem distinct_chosen_of_effect (wired : Wired s.channel) (inStep : InStep s)
    (listed : (Template.names s.selector.listed).Nodup)
    (chosen : (Template.names s.board.chosen).Nodup) (effect : Effect s op s') :
    (Template.names s'.board.chosen).Nodup := by
  cases effect with
  | toggle =>
    rw [toggle_chosen inStep]
    exact nodup_names_filter listed _
  | @add _ batch =>
    rw [announceAll_chosen (s := s.appended batch) wired (inStep.appended batch)]
    exact nodup_names_filter chosen _
  | publish =>
    rw [announce_chosen wired inStep]
    exact nodup_names_filter chosen _
  | _ => exact chosen

theorem distinct_chosen_run
    (loaded : ∀ catalogue, .load (.ok catalogue) ∈ ops → Unambiguous stackList catalogue) :
    (Template.names ((start stackList).run ops).board.chosen).Nodup := by
  induction ops using List.reverseRecOn with
  | nil => exact List.nodup_nil
  | append_singleton before op ih =>
    have earlier : ∀ catalogue, .load (.ok catalogue) ∈ before → Unambiguous stackList catalogue :=
      fun catalogue hm => loaded catalogue (List.mem_append_left _ hm)
    obtain ⟨wired, inStep⟩ := run_inStep stackList before
    rw [run_concat]
    exact distinct_chosen_of_effect wired inStep (distinct_listed_run earlier) (ih earlier)
      (operate_effect _ op)

/-- The run that selects all templates of a name that a stack lists of a catalogue. -/
def picking (catalogue : List Template) (id name : String) : List (Operation ε) :=
  [.load (.ok catalogue), .selectStack (some id), .toggle name true]

theorem picking_chosen {id : String} {stack : Stack} (catalogue : List Template)
    (found : Stack.find? stackList id = some stack) (name : String) :
    let s := (start stackList).run (picking catalogue id name : List (Operation ε))
    s.board.ready = [] ∧ ∃ listed,
      Template.StablySorted (catalogue.filter fun t => t.Carries (lowerTags stack.tags)) listed ∧
        s.board.chosen = listed.filter fun t => t.name == name := by
  intro s
  let before := operate (.load (.ok catalogue) : Operation ε) (start stackList)
  have inStep : InStep (before.activate (some id)) :=
    ((InStep.start stackList).load catalogue).activate (some id)
  have clicked : s = (before.activate (some id)).toggle name true := by
    have granted : (selectStack (some id)).after before = before.activate (some id) :=
      Attempt.after_of_ok (selectStack_known found)
    rw [← granted]
    rfl
  rw [clicked]
  refine ⟨rfl, _, activate_listed (ε := ε) catalogue found, ?_⟩
  rw [toggle_chosen inStep]
  refine List.filter_congr fun t _ => ?_
  have none : (before.activate (some id)).board.chosen = [] := rfl
  rw [none]
  by_cases h : t.name = name <;> simp [h]

/-! ## What can be imported -/

/-- A selection whose names are free can be imported. -/
def Importable (s : Session) : Prop :=
  s.board.chosen ≠ [] → (Template.names s.board.chosen).Disjoint (Template.names s.board.ready) →
    ∃ names s', (add .templates).run s = .ok names s'

theorem importable_iff (s : Session) :
    Importable s ↔
      ((Template.names s.board.chosen).Disjoint (Template.names s.board.ready) →
        (Template.names s.board.chosen).Nodup) := by
  constructor
  · intro importable free
    by_cases chosen : s.board.chosen = []
    · rw [chosen]
      exact List.nodup_nil
    · exact ((add_iff_fits s .templates).1 (importable chosen free)).distinct
  · intro distinct chosen free
    exact (add_iff_fits s .templates).2 ⟨chosen, distinct free, fun _ hn => @free _ hn⟩

/-- Where a name is selected twice, the first that was selected before is to blame. -/
theorem add_repeated (chosen : s.board.chosen ≠ [])
    (repeated : ¬ (Template.names s.board.chosen).Nodup) :
    ∃ i name,
      ReadyList.FirstClash (Template.names s.board.ready) (Template.names s.board.chosen) i name ∧
        (add .templates).run s = .error (.duplicateProjectName name) s := by
  have offers : s.board.offered .templates ≠ [] := chosen
  have misfit : ¬ s.board.Fits .templates := fun fits => repeated fits.distinct
  obtain ⟨i, name, clash, refused⟩ := Board.takeIn_misfit offers misfit
  exact ⟨i, name, clash, add_eq_error refused⟩

theorem count_names_filter (templates : List Template) (name : String) :
    (Template.names (templates.filter fun t => t.name == name)).count name =
      (Template.names templates).count name := by
  have filtered : Template.names (templates.filter fun t => t.name == name) =
      (Template.names templates).filter (· == name) := by
    rw [Template.names, Template.names, List.filter_map]
    rfl
  rw [filtered, List.count_filter (by simp)]

/-- A catalogue is unambiguous if each name that a stack lists of it can be imported. -/
theorem unambiguous_of_picking
    (h : ∀ id name, Importable ((start stackList).run
      (picking catalogue id name : List (Operation ε)))) :
    Unambiguous stackList catalogue := by
  intro id stack found
  rw [List.nodup_iff_count_le_one]
  intro name
  obtain ⟨ready, listed, sorted, chosen⟩ := picking_chosen (ε := ε) catalogue found name
  have distinct := (importable_iff _).1 (h id name)
  rw [ready, chosen] at distinct
  calc (Template.names (catalogue.filter _)).count name
      = (Template.names listed).count name := ((sorted.perm.map Template.name).count_eq name).symm
    _ = (Template.names (listed.filter fun t => t.name == name)).count name :=
        (count_names_filter listed name).symm
    _ ≤ 1 := List.nodup_iff_count_le_one.1 (distinct (List.disjoint_nil_right _)) name

/-- Where something is selected and its names are free, its import is granted if no name is
selected twice, and is refused for the first name that is. In all sessions over the catalogues that
are offered it is granted, exactly if those are unambiguous. -/
theorem import_granted_iff (stackList : List Stack) (offers : List Template → Prop) :
    (∀ ops : List (Operation ε),
      let s := (start stackList).run ops
      s.board.chosen ≠ [] →
        (Template.names s.board.chosen).Disjoint (Template.names s.board.ready) →
          ((Template.names s.board.chosen).Nodup →
              ∃ names s', (add .templates).run s = .ok names s') ∧
            (¬ (Template.names s.board.chosen).Nodup →
              ∃ i name,
                ReadyList.FirstClash (Template.names s.board.ready)
                  (Template.names s.board.chosen) i name ∧
                (add .templates).run s = .error (.duplicateProjectName name) s)) ∧
      ((∀ ops : List (Operation ε),
          (∀ catalogue, .load (.ok catalogue) ∈ ops → offers catalogue) →
            Importable ((start stackList).run ops)) ↔
        ∀ catalogue, offers catalogue → Unambiguous stackList catalogue) := by
  refine ⟨?_, ?_, ?_⟩
  · intro ops s chosen free
    refine ⟨fun distinct => ?_, add_repeated chosen⟩
    exact (importable_iff s).2 (fun _ => distinct) chosen free
  · intro importable catalogue offered
    refine unambiguous_of_picking (ε := ε) fun id name => importable _ ?_
    intro loaded hm
    obtain rfl : loaded = catalogue := by simpa [picking] using hm
    exact offered
  · intro unambiguous ops loaded
    rw [importable_iff]
    exact fun _ => distinct_chosen_run fun catalogue hm => unambiguous _ (loaded catalogue hm)

/-- Two templates with distinct names are listed, and the one that is selected can be imported. -/
theorem import_granted_distinct :
    let catalogue : List Template :=
      [{ name := "a", tags := ["x"] }, { name := "b", tags := ["x"] }]
    let s := (start [⟨"s", "", ["x"]⟩]).run (picking catalogue "s" "a" : List (Operation Empty))
    Template.names s.board.chosen = ["a"] ∧ s.board.ready = [] ∧
      ∃ names s', (add .templates).run s = .ok names s' := by
  intro catalogue s
  have chosen : s.board.chosen = [{ name := "a", tags := ["x"] }] := by
    change (Session.run _ _).board.chosen = _
    rw [picking, run_load_ordered (by decide)]
    decide +kernel
  have ready : s.board.ready = [] := by decide +kernel
  obtain ⟨-, everywhere⟩ := import_granted_iff (ε := Empty) [⟨"s", "", ["x"]⟩] (· = catalogue)
  have unambiguous : ∀ c, c = catalogue → Unambiguous [⟨"s", "", ["x"]⟩] c := by
    rintro c rfl
    exact unambiguous_of_nodup (by decide)
  have importable : Importable s := by
    refine everywhere.2 unambiguous _ fun loaded hm => ?_
    simpa [picking] using hm
  refine ⟨by rw [chosen]; rfl, ready, importable ?_ ?_⟩
  · rw [chosen]
    exact List.cons_ne_nil _ _
  · rw [ready]
    exact List.disjoint_nil_right _

def twins : List Template :=
  [{ name := "a", tags := ["x"] }, { name := "a", displayName := "again", tags := ["x"] }]

/-- Such templates are accepted as a catalogue, and once they are selected they cannot be imported,
though nothing else was. -/
theorem twins_refused :
    Catalogue.ofFile "templates.yaml"
        (.ok "[{name: a, tags: [x]}, {name: a, displayName: again, tags: [x]}]".toUTF8.toList) =
      .ok twins ∧
    let s := (start [⟨"s", "", ["x"]⟩]).run
      (picking twins "s" "a" : List (Operation CatalogueError))
    Template.names s.board.chosen = ["a", "a"] ∧ s.board.ready = [] ∧
      (add .templates).run s = .error (.duplicateProjectName "a") s := by
  refine ⟨by decide +kernel, ?_⟩
  intro s
  have chosen : s.board.chosen = twins := by
    change (Session.run _ _).board.chosen = _
    rw [picking, run_load_ordered (by decide)]
    decide +kernel
  have ready : s.board.ready = [] := by decide +kernel
  have candidates : s.board.candidates .templates = .ok twins := by
    rw [Board.candidates, chosen]
    rfl
  have clash :
      ReadyList.FirstClash (Template.names s.board.ready) (Template.names twins) 1 "a" := by
    rw [ready]
    exact ReadyList.firstClash_succ.2 ⟨by decide, ReadyList.firstClash_zero.2 ⟨rfl, by decide⟩⟩
  exact ⟨by rw [chosen]; rfl, ready, add_eq_error (Board.takeIn_clash candidates clash)⟩

end ProjectPicker.Session
