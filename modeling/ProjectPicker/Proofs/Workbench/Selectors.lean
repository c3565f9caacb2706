import ProjectPicker.Proofs.Channel
import ProjectPicker.Proofs.Selector
import ProjectPicker.Proofs.Workbench.DistinctNames

/-!
# The selectors of a workbench and the stack changes

* `Workbench.Wired` : the selectors hear of stack changes under numbers of their own, which no
  listener has, and nobody else is being served;
* `Workbench.UpToDate` : the selectors go by the active stack, except those that are still to be
  told;
* `Workbench.Narrowed` : and what they list are the templates that match;
* `Workbench.Kept` : what is done to a wired workbench leaves it wired, and leaves nobody behind who
  was up to date;
* `keeps_release`, `keeps_subscribe`, `keeps_attachSelector`, `keeps_detachSelector`,
  `keeps_takeQuiet` : so it is with all that serves nobody.
-/

set_option autoImplicit false

namespace ProjectPicker.Workbench

variable {w w' u : Workbench} {a : AttachedSelector} {b b' : Board} {id i : Nat}
  {pending : List Nat}

/-! ## Acting selectors -/

section Acting

variable {p : AttachedSelector → Bool} {act : Selector → Board → Selector × Board}

theorem actOnSelector_eq_some (h : w.actOnSelector p act = some w') :
    ∃ before a after, w.selectors = before ++ a :: after ∧ (∀ x ∈ before, p x = false) ∧
      p a = true ∧
      w' = { w with
        selectors := before ++ { a with view := (act a.view w.board).1 } :: after
        board := (act a.view w.board).2 } := by
  obtain ⟨⟨views, b⟩, acted, rfl⟩ := Option.map_eq_some_iff.1 h
  obtain ⟨before, a, after, split, others, here, rfl, rfl⟩ := actOn_eq_some acted
  exact ⟨before, a, after, split, others, here, rfl⟩

theorem actOnSelector_eq_none_iff :
    w.actOnSelector p act = none ↔ ∀ a ∈ w.selectors, p a = false :=
  Option.map_eq_none_iff.trans actOn_eq_none_iff

theorem forall_actOnSelector {P : Selector → Prop} (hact : ∀ s b, P s → P (act s b).1)
    (h : w.actOnSelector p act = some w') (all : ∀ a ∈ w.selectors, P a.view) :
    ∀ a ∈ w'.selectors, P a.view := by
  obtain ⟨before, a, after, split, -, -, rfl⟩ := actOnSelector_eq_some h
  rw [split] at all
  intro x hx
  simp only [List.mem_append, List.mem_cons] at hx all
  obtain hx | rfl | hx := hx
  · exact all x (.inl hx)
  · exact hact _ _ (all a (.inr (.inl rfl)))
  · exact all x (.inr (.inr hx))

end Acting

/-! ## Numbers -/

/-- The numbers under which the selectors hear of stack changes. -/
def numbers (w : Workbench) : List Nat := w.selectors.map (·.stackSubscription)

/-- A number that no selector has and none will get. -/
def Foreign (w : Workbench) (i : Nat) : Prop := i < w.stackChanges.nextId ∧ i ∉ w.numbers

/-- The selectors hear of stack changes under numbers of their own. No listener has any of these,
nor is any of them marked as being served. -/
structure Wired (w : Workbench) : Prop where
  given : ∀ i ∈ w.numbers, i < w.stackChanges.nextId
  subscribed : ∀ i ∈ w.numbers, (i, .selector) ∈ w.stackChanges.subscribers
  distinct : w.numbers.Nodup
  listeners : ∀ i l, (i, .listener l) ∈ w.stackChanges.subscribers → w.Foreign i
  held : ∀ name i, (name, .stackChanges, i) ∈ w.held → w.Foreign i
  running : ∀ i ∈ w.stackChanges.running, w.Foreign i

theorem wired_start (stackList : List Stack) : (start stackList).Wired := by
  refine ⟨?_, ?_, List.nodup_nil, ?_, ?_, ?_⟩
  all_goals
    intros
    contradiction

/-- The selectors go by the active stack, except those whose numbers are pending. -/
def UpToDate (pending : List Nat) (w : Workbench) : Prop :=
  ∀ a ∈ w.selectors, a.stackSubscription ∉ pending → Selector.Follows w.board a.view.stackTags

/-- There is no need to wait for a number that no selector has. -/
theorem UpToDate.skip (h : w.UpToDate (id :: pending)) (foreign : id ∉ w.numbers) :
    w.UpToDate pending := by
  intro a ha told
  refine h a ha fun waits => ?_
  obtain rfl | waits := List.mem_cons.1 waits
  · exact foreign (List.mem_map_of_mem ha)
  · exact told waits

theorem UpToDate.mono {more : List Nat} (h : w.UpToDate pending) (sub : pending ⊆ more) :
    w.UpToDate more :=
  fun a ha told => h a ha fun waits => told (sub waits)

def Narrowed (w : Workbench) : Prop := ∀ a ∈ w.selectors, a.view.Narrowed

/-! ## What is kept -/

/-- A wired workbench is wired still, under the same stacks and with the same subscribers being
served; foreign numbers stay foreign, nobody is left behind who was up to date, and what is listed
matches. -/
structure Kept (w w' : Workbench) : Prop where
  wired : w'.Wired
  stackList : w'.board.stackList = w.board.stackList
  running : w'.stackChanges.running = w.stackChanges.running
  foreign : ∀ i, w.Foreign i → w'.Foreign i
  upToDate : ∀ pending, w.UpToDate pending → w'.UpToDate pending
  narrowed : w.Narrowed → w'.Narrowed

/-- What leads from the one to the other keeps a wired workbench as it should be. -/
def Keeps (w w' : Workbench) : Prop := w.Wired → Kept w w'

theorem Keeps.refl (w : Workbench) : Keeps w w := fun wired =>
  ⟨wired, rfl, rfl, fun _ h => h, fun _ h => h, fun h => h⟩

theorem Kept.trans (h : Kept w u) (h' : Kept u w') : Kept w w' where
  wired := h'.wired
  stackList := h'.stackList.trans h.stackList
  running := h'.running.trans h.running
  foreign i hi := h'.foreign i (h.foreign i hi)
  upToDate pending hp := h'.upToDate pending (h.upToDate pending hp)
  narrowed hw := h'.narrowed (h.narrowed hw)

theorem Keeps.trans (h : Keeps w u) (h' : Keeps u w') : Keeps w w' :=
  fun wired => (h wired).trans (h' (h wired).wired)

/-- The same stack is active, of the same stacks. -/
structure SameStack (b b' : Board) : Prop where
  stackList : b'.stackList = b.stackList
  activeStack : b'.activeStack = b.activeStack

theorem SameStack.refl (b : Board) : SameStack b b := ⟨rfl, rfl⟩

theorem SameStack.follows {stackTags : List String} (same : SameStack b b')
    (h : Selector.Follows b stackTags) : Selector.Follows b' stackTags := by
  intro id active
  rw [same.activeStack] at active
  rw [same.stackList]
  exact h id active

/-- Whoever changes none of these has kept a workbench as it should be. -/
theorem keeps_of_numbers (same : SameStack w.board w'.board)
    (stackChanges : w'.stackChanges = w.stackChanges) (held : w'.held = w.held)
    (numbers : w'.numbers = w.numbers)
    (upToDate : ∀ pending, w.UpToDate pending → w'.UpToDate pending)
    (narrowed : w.Narrowed → w'.Narrowed) : Keeps w w' := by
  intro wired
  have foreign : ∀ i, w.Foreign i → w'.Foreign i := by
    intro i hi
    rwa [Foreign, stackChanges, numbers]
  refine ⟨⟨?_, ?_, ?_, ?_, ?_, ?_⟩, same.stackList, by rw [stackChanges], foreign, upToDate,
    narrowed⟩
  · rw [numbers, stackChanges]
    exact wired.given
  · rw [numbers, stackChanges]
    exact wired.subscribed
  · rw [numbers]
    exact wired.distinct
  · rw [stackChanges]
    exact fun i l hl => foreign i (wired.listeners i l hl)
  · rw [held]
    exact fun name i hi => foreign i (wired.held name i hi)
  · rw [stackChanges]
    exact fun i hi => foreign i (wired.running i hi)

/-- Whoever has nothing to do with stacks has kept a workbench as it should be. -/
theorem keeps_elsewhere (same : SameStack w.board w'.board)
    (stackChanges : w'.stackChanges = w.stackChanges) (held : w'.held = w.held)
    (selectors : w'.selectors = w.selectors) : Keeps w w' := by
  refine keeps_of_numbers same stackChanges held (by rw [numbers, selectors]; rfl) ?_ ?_
  · intro pending h a ha told
    rw [selectors] at ha
    exact same.follows (h a ha told)
  · intro h
    rwa [Narrowed, selectors]

theorem keeps_record (entry : LogEntry) (w : Workbench) : Keeps w (record entry w) :=
  keeps_elsewhere ⟨rfl, rfl⟩ rfl rfl rfl

theorem keeps_setFields (w : Workbench) (kind : FieldKind) (views : List (Attached kind.Field)) :
    Keeps w (w.setFields kind views) := by
  cases kind <;> exact keeps_elsewhere ⟨rfl, rfl⟩ rfl rfl rfl

/-- A selector that acts may take over other tags only if they are those of the active stack. -/
theorem keeps_actOnSelector {p : AttachedSelector → Bool}
    {act : Selector → Board → Selector × Board}
    (same : ∀ s b, SameStack b (act s b).2)
    (tags : ∀ s b, (act s b).1.stackTags = s.stackTags ∨
      Selector.Follows (act s b).2 (act s b).1.stackTags)
    (narrowed : ∀ s b, s.Narrowed → (act s b).1.Narrowed)
    (h : w.actOnSelector p act = some w') : Keeps w w' := by
  have all := forall_actOnSelector narrowed h
  obtain ⟨before, a, after, split, -, -, rfl⟩ := actOnSelector_eq_some h
  refine keeps_of_numbers (same a.view w.board) rfl rfl ?_ ?_ all
  · simp [numbers, split]
  · intro pending h x hx told
    rw [UpToDate, split] at h
    simp only [List.mem_append, List.mem_cons] at hx h
    obtain hx | rfl | hx := hx
    · exact (same _ _).follows (h x (.inl hx) told)
    · obtain kept | follows := tags a.view w.board
      · rw [kept]
        exact (same _ _).follows (h a (.inr (.inl rfl)) told)
      · exact follows
    · exact (same _ _).follows (h x (.inr (.inr hx)) told)

/-! ## Joining and leaving -/

/-- Whoever has a foreign number can be unsubscribed. -/
theorem keeps_unsubscribe {held : List (String × Topic × Nat)} (foreign : w.Foreign i)
    (sub : held ⊆ w.held) :
    Keeps w { w with held, stackChanges := w.stackChanges.unsubscribe i } := by
  intro wired
  refine ⟨⟨wired.given, ?_, wired.distinct, ?_, ?_, wired.running⟩, rfl, rfl,
    fun _ h => h, fun _ h => h, fun h => h⟩
  · intro j hj
    have other : j ≠ i := fun same => foreign.2 (same ▸ hj)
    exact List.mem_filter.2 ⟨wired.subscribed j hj, bne_iff_ne.2 other⟩
  · exact fun j l hl => wired.listeners j l (List.mem_filter.1 hl).1
  · exact fun name j hj => wired.held name j (sub hj)

theorem keeps_release (w : Workbench) (name : String) : Keeps w (w.release name).2 := by
  intro wired
  have less : w.held.filter (·.1 != name) ⊆ w.held := List.filter_subset_self _
  unfold release
  split
  · next topic i lookup =>
    obtain ⟨before, after, split, -⟩ := List.lookup_eq_some_iff.1 lookup
    have held : (name, topic, i) ∈ w.held := by simp [split]
    cases topic with
    | projects =>
      exact ⟨⟨wired.given, wired.subscribed, wired.distinct, wired.listeners,
        fun other j hj => wired.held other j (less hj), wired.running⟩, rfl, rfl,
        fun _ h => h, fun _ h => h, fun h => h⟩
    | stackChanges => exact keeps_unsubscribe (wired.held name i held) less wired
  · exact Keeps.refl w wired

theorem kept_listen (wired : w.Wired) (l : Listener) :
    let v := { w with stackChanges := w.stackChanges.subscribe (.listener l) }
    Kept w v ∧ v.Foreign w.stackChanges.nextId := by
  intro v
  have new : v.Foreign w.stackChanges.nextId :=
    ⟨Nat.lt_succ_self _, fun given => Nat.lt_irrefl _ (wired.given _ given)⟩
  have foreign : ∀ i, w.Foreign i → v.Foreign i := fun i hi => ⟨Nat.lt_succ_of_lt hi.1, hi.2⟩
  refine ⟨⟨⟨fun i hi => Nat.lt_succ_of_lt (wired.given i hi), ?_, wired.distinct, ?_, ?_, ?_⟩,
    rfl, rfl, foreign, fun _ h => h, fun h => h⟩, new⟩
  · exact fun i hi => List.mem_append_left _ (wired.subscribed i hi)
  · intro i l' hl
    obtain hl | hl := List.mem_append.1 hl
    · exact foreign i (wired.listeners i l' hl)
    · obtain ⟨rfl, -⟩ := Prod.mk.inj (List.mem_singleton.1 hl)
      exact new
  · exact fun name i hi => foreign i (wired.held name i hi)
  · exact fun i hi => foreign i (wired.running i hi)

theorem keeps_hold {topic : Topic} (name : String)
    (foreign : topic = .stackChanges → w.Foreign i) :
    Keeps w { w with held := w.held ++ [(name, topic, i)] } := by
  intro wired
  refine ⟨⟨wired.given, wired.subscribed, wired.distinct, wired.listeners, ?_, wired.running⟩,
    rfl, rfl, fun _ h => h, fun _ h => h, fun h => h⟩
  intro other j hj
  obtain hj | hj := List.mem_append.1 hj
  · exact wired.held other j hj
  · obtain ⟨-, hj⟩ := Prod.mk.inj (List.mem_singleton.1 hj)
    obtain ⟨same, rfl⟩ := Prod.mk.inj hj
    exact foreign same.symm

theorem keeps_subscribe (w : Workbench) (topic : Topic) (l : Listener) :
    Keeps w (w.subscribe topic l).2 := by
  cases topic with
  | projects =>
    let v := { w with projects := w.projects.subscribe (.listener l) }
    have made : Keeps w v := keeps_elsewhere ⟨rfl, rfl⟩ rfl rfl rfl
    exact (made.trans (keeps_release v l.name)).trans
      (keeps_hold (i := w.projects.nextId) l.name fun never => by cases never)
  | stackChanges =>
    intro wired
    let v := { w with stackChanges := w.stackChanges.subscribe (.listener l) }
    obtain ⟨made, new⟩ := kept_listen wired l
    have released := keeps_release v l.name made.wired
    have held := keeps_hold l.name fun _ : Topic.stackChanges = .stackChanges =>
      released.foreign _ new
    exact (made.trans released).trans (held released.wired)

/-- A selector with a new number joins that goes by the active stack. -/
theorem keeps_join (projects : Channel ProjectSubscriber)
    (number : a.stackSubscription = w.stackChanges.nextId)
    (follows : Selector.Follows w.board a.view.stackTags) (narrowed : a.view.Narrowed) :
    Keeps w { w with
      selectors := w.selectors ++ [a]
      stackChanges := w.stackChanges.subscribe .selector
      projects } := by
  intro wired
  have grown (v : Workbench) (h : v.selectors = w.selectors ++ [a]) :
      v.numbers = w.numbers ++ [w.stackChanges.nextId] := by
    simp [numbers, h, number]
  have foreign : ∀ i, w.Foreign i → Foreign { w with
      selectors := w.selectors ++ [a]
      stackChanges := w.stackChanges.subscribe .selector
      projects } i := by
    intro i hi
    refine ⟨Nat.lt_succ_of_lt hi.1, ?_⟩
    rw [grown _ rfl, List.mem_append, List.mem_singleton]
    exact fun taken => taken.elim hi.2 (Nat.ne_of_lt hi.1)
  refine ⟨⟨?_, ?_, ?_, ?_, ?_, ?_⟩, rfl, rfl, foreign, ?_, ?_⟩
  · intro i hi
    rw [grown _ rfl, List.mem_append, List.mem_singleton] at hi
    obtain hi | rfl := hi
    · exact Nat.lt_succ_of_lt (wired.given i hi)
    · exact Nat.lt_succ_self _
  · intro i hi
    rw [grown _ rfl, List.mem_append, List.mem_singleton] at hi
    obtain hi | rfl := hi
    · exact List.mem_append_left _ (wired.subscribed i hi)
    · exact List.mem_append_right _ (List.mem_singleton.2 rfl)
  · rw [grown _ rfl, List.nodup_append]
    refine ⟨wired.distinct, List.nodup_singleton _, fun i hi j hj => ?_⟩
    rw [List.mem_singleton.1 hj]
    exact Nat.ne_of_lt (wired.given i hi)
  · intro i l hl
    obtain hl | hl := List.mem_append.1 hl
    · exact foreign i (wired.listeners i l hl)
    · cases List.mem_singleton.1 hl
  · exact fun name i hi => foreign i (wired.held name i hi)
  · exact fun i hi => foreign i (wired.running i hi)
  · intro pending h x hx told
    obtain hx | hx := List.mem_append.1 hx
    · exact h x hx told
    · rw [List.mem_singleton.1 hx]
      exact follows
  · intro h x hx
    obtain hx | hx := List.mem_append.1 hx
    · exact h x hx
    · rw [List.mem_singleton.1 hx]
      exact narrowed

theorem keeps_leave (projects : Channel ProjectSubscriber) (present : a ∈ w.selectors) :
    Keeps w { w with
      selectors := w.selectors.filter (·.subscription != a.subscription)
      stackChanges := w.stackChanges.unsubscribe a.stackSubscription
      projects } := by
  intro wired
  have fewer : (w.selectors.filter (·.subscription != a.subscription)).map (·.stackSubscription)
      ⊆ w.numbers := List.map_subset _ (List.filter_subset_self _)
  refine ⟨⟨fun i hi => wired.given i (fewer hi), ?_, ?_, ?_, ?_, ?_⟩, rfl, rfl,
    fun i hi => ⟨hi.1, fun taken => hi.2 (fewer taken)⟩, ?_, ?_⟩
  · intro i hi
    refine List.mem_filter.2 ⟨wired.subscribed i (fewer hi), bne_iff_ne.2 ?_⟩
    rintro rfl
    obtain ⟨x, hx, same⟩ := List.mem_map.1 hi
    obtain ⟨remains, differs⟩ := List.mem_filter.1 hx
    obtain rfl := List.inj_on_of_nodup_map wired.distinct remains present same
    exact absurd differs (by simp)
  · exact wired.distinct.sublist (List.filter_sublist.map _)
  · intro i l hl
    have foreign := wired.listeners i l (List.mem_filter.1 hl).1
    exact ⟨foreign.1, fun taken => foreign.2 (fewer taken)⟩
  · exact fun name i hi =>
      ⟨(wired.held name i hi).1, fun taken => (wired.held name i hi).2 (fewer taken)⟩
  · exact fun i hi => ⟨(wired.running i hi).1, fun taken => (wired.running i hi).2 (fewer taken)⟩
  · exact fun pending h x hx told => h x (List.mem_filter.1 hx).1 told
  · exact fun h x hx => h x (List.mem_filter.1 hx).1

theorem keeps_detachField (w : Workbench) (kind : FieldKind) (id : String) :
    Keeps w (w.detachField kind id).2 := by
  unfold detachField
  split
  · next a _ =>
    let v : Workbench := { w with projects := w.projects.unsubscribe a.subscription }
    have left : Keeps w v := keeps_elsewhere ⟨rfl, rfl⟩ rfl rfl rfl
    exact left.trans (keeps_setFields v kind _)
  · exact .refl w

theorem keeps_attachField (w : Workbench) (kind : FieldKind) (id : String) :
    Keeps w (w.attachField kind id).2 := by
  let v : Workbench := { w with projects := w.projects.subscribe (.field kind) }
  have made : Keeps w v := keeps_elsewhere ⟨rfl, rfl⟩ rfl rfl rfl
  exact (made.trans (keeps_detachField v kind id)).trans (keeps_setFields _ kind _)

theorem keeps_detachSelector (w : Workbench) (name : String) :
    Keeps w (w.detachSelector name).2 := by
  unfold detachSelector
  split
  · next a found => exact keeps_leave _ (List.mem_of_find?_eq_some found)
  · exact .refl w

/-- Joining comes before leaving, but has a number of its own, so it might as well come after. -/
theorem keeps_attachSelector (w : Workbench) (name : String) :
    Keeps w (w.attachSelector name).2 := by
  intro wired
  let joined : AttachedSelector :=
    ⟨⟨name, w.projects.nextId, Selector.attach w.board⟩, w.stackChanges.nextId⟩
  have follows := Selector.follows_attach w.board
  have narrowed := Selector.narrowed_attach w.board
  rw [attachSelector, detachSelector]
  dsimp only
  split
  · next a found =>
    have present := List.mem_of_find?_eq_some found
    have given : a.stackSubscription < w.stackChanges.nextId :=
      wired.given _ (List.mem_map_of_mem present)
    rw [Channel.unsubscribe_subscribe (Nat.ne_of_gt given)]
    exact ((keeps_leave w.projects present).trans
      (keeps_join (a := joined) _ rfl follows narrowed)) wired
  · exact keeps_join (a := joined) _ rfl follows narrowed wired

/-! ## All that serves nobody -/

theorem keeps_actOnField {kind : FieldKind} {p : Attached kind.Field → Bool}
    {act : kind.Field → Board → kind.Field × Board} (same : ∀ f b, SameStack b (act f b).2)
    (h : w.actOnField kind p act = some w') : Keeps w w' := by
  obtain ⟨views, b, acted, rfl⟩ := actOnField_eq_some h
  have changed : SameStack w.board b := by
    refine actOn_board (R := SameStack) (fun a b => ?_) acted
    exact same a.view b
  have moved : Keeps w { w with board := b } := keeps_elsewhere changed rfl rfl rfl
  exact moved.trans (keeps_setFields _ kind views)

theorem sameStack_clear (kind : FieldKind) (name : String) (f : kind.Field) (b : Board) :
    SameStack b (kind.clear name f b).2 := by
  cases kind with
  | git =>
    rw [FieldKind.clear, GitField.clear_snd]
    exact ⟨rfl, rfl⟩
  | zip =>
    rw [FieldKind.clear, ZipField.clear_snd]
    exact ⟨rfl, rfl⟩

theorem sameStack_act (kind : FieldKind) (action : kind.Action) (f : kind.Field) (b : Board) :
    SameStack b (kind.act action f b).2 := by
  cases kind with
  | git =>
    cases action with
    | clear name => exact sameStack_clear .git name f b
    | _ => exact ⟨rfl, rfl⟩
  | zip =>
    cases action with
    | clear name => exact sameStack_clear .zip name f b
    | _ => exact ⟨rfl, rfl⟩

theorem sameStack_after {α : Type} {a : Attempt Refusal Board α} (atomic : a.Atomic)
    (granted : ∀ x b', a.run b = .ok x b' → SameStack b b') : SameStack b (a.after b) := by
  obtain ⟨x, ran⟩ | same := atomic.after_cases b
  · exact granted x _ ran
  · rw [same]
    exact .refl b

theorem sameStack_takeIn (source : Source) (b : Board) :
    SameStack b ((Board.takeIn source).after b) :=
  sameStack_after (Board.atomic_takeIn source) fun names b' granted => by
    obtain ⟨batch, -, -, -, rfl⟩ := Board.takeIn_eq_ok granted
    exact ⟨rfl, rfl⟩

theorem keeps_attempt {α : Type} {a : Attempt Refusal Board α} (answer : α → Answer)
    (atomic : a.Atomic) (granted : ∀ x b', a.run w.board = .ok x b' → SameStack w.board b') :
    Keeps w (attempt a answer w).2 := by
  have after : (attempt a answer w).2 = { w with board := a.after w.board } := by
    simp only [attempt, Attempt.after]
    cases a.run w.board <;> rfl
  rw [after]
  exact keeps_elsewhere (sameStack_after atomic granted) rfl rfl rfl

theorem keeps_selectorAct (id : String) (action : SelectorAction) (w : Workbench) :
    Keeps w ((w.actOnSelector (·.id == id) (selectorAct action)).getD w) := by
  refine getD_of (P := Keeps w) (fun u acted => ?_) (.refl w)
  refine keeps_actOnSelector (fun s b => ?_) (fun s b => ?_) (fun s b narrowed => ?_) acted
  · cases action with
    | added name =>
      rw [selectorAct, Selector.added_snd]
      exact ⟨rfl, rfl⟩
    | _ => exact ⟨rfl, rfl⟩
  · cases action with
    | added name => exact .inl (Selector.added_stackTags s name b)
    | stackChanged => exact .inr (Selector.follows_stackChanged b s)
    | _ => exact .inl rfl
  · cases action with
    | fetch supply => exact Selector.narrowed_fetched b s
    | fetched => exact Selector.narrowed_fetched b s
    | stackChanged => exact narrowed.stackChanged b
    | filter => exact Selector.narrowed_filter s
    | added name => exact narrowed.added name b
    | _ => exact narrowed

theorem keeps_takeSelector (id : String) (action : SelectorAction) (w : Workbench) :
    Keeps w (takeSelector id action w).2 := by
  unfold takeSelector
  split
  · exact .refl w
  · split
    · exact .refl w
    · split
      · exact .refl w
      · next supply _ u fetched =>
        have first : Keeps w u := by
          cases supply <;> cases fetched
          exact keeps_elsewhere ⟨rfl, rfl⟩ rfl rfl rfl
        exact first.trans (keeps_selectorAct id _ u)
    · exact keeps_selectorAct id _ w

theorem keeps_takeField (kind : FieldKind) (id : String) (action : kind.Action) (w : Workbench) :
    Keeps w (takeField kind id action w).2 := by
  unfold takeField
  split
  · next u acted => exact keeps_actOnField (sameStack_act kind action) acted
  · exact .refl w

theorem keeps_openEditor (id : String) (t : Template) (w : Workbench) :
    Keeps w (openEditor id t w).2 := by
  unfold openEditor
  split
  · exact keeps_elsewhere ⟨rfl, rfl⟩ rfl rfl rfl
  · exact .refl w

theorem keeps_takeEditor (id : String) (action : EditorAction) (w : Workbench) :
    Keeps w (takeEditor id action w).2 := by
  unfold takeEditor
  split
  · exact .refl w
  · split
    · exact keeps_elsewhere ⟨rfl, rfl⟩ rfl rfl rfl
    · exact keeps_elsewhere ⟨rfl, rfl⟩ rfl rfl rfl
    · exact .refl w
    · exact .refl w
    · split
      · next e' b' saved =>
        obtain ⟨-, -, ready, -, rfl⟩ := Editor.save_eq_ok saved
        exact keeps_elsewhere ⟨rfl, rfl⟩ rfl rfl rfl
      · next r e' b' refused =>
        cases Editor.atomic_save _ _ _ refused
        exact keeps_elsewhere ⟨rfl, rfl⟩ rfl rfl rfl

theorem keeps_takeQuiet (action : QuietAction) (w : Workbench) :
    Keeps w (takeQuiet action w).2 := by
  cases action with
  | unsubscribe name => exact keeps_release w name
  | fetch supply =>
    cases supply with
    | none => exact .refl w
    | some catalogue => exact keeps_elsewhere ⟨rfl, rfl⟩ rfl rfl rfl
  | update old t =>
    refine keeps_attempt _ (Board.atomic_update old t) fun x b' granted => ?_
    obtain ⟨ready, -, rfl⟩ := Board.update_eq_ok granted
    exact ⟨rfl, rfl⟩
  | remove name =>
    refine keeps_attempt _ (Board.atomic_remove name) fun t b' granted => ?_
    obtain ⟨ready, -, rfl⟩ := Board.remove_eq_ok granted
    exact ⟨rfl, rfl⟩
  | attachGit id => exact keeps_attachField w .git id
  | detachGit id => exact keeps_detachField w .git id
  | git id action => exact keeps_takeField .git id action w
  | attachZip id => exact keeps_attachField w .zip id
  | detachZip id => exact keeps_detachField w .zip id
  | zip id action => exact keeps_takeField .zip id action w
  | attachSelector id => exact keeps_attachSelector w id
  | detachSelector id => exact keeps_detachSelector w id
  | selector id action => exact keeps_takeSelector id action w
  | openEditor id target =>
    cases target with
    | template t => exact keeps_openEditor id t w
    | ready name =>
      simp only [takeQuiet]
      split
      · exact keeps_openEditor id _ w
      · exact .refl w
  | editor id action => exact keeps_takeEditor id action w
  | _ => exact keeps_elsewhere ⟨rfl, rfl⟩ rfl rfl rfl

end ProjectPicker.Workbench
