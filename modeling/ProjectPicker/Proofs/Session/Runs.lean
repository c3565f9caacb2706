import ProjectPicker.Proofs.Publication
import ProjectPicker.Proofs.Session.Operations

/-!
# Runs of a session

* `Session.Operation`, `Session.run` : any operations, one after the other, granted or refused;
* `Session.hear`, `announce_eq` : a publication serves its subscribers in turn;
* `Session.Wired` : the three views come first among the subscribers, and none is being served;
* `Session.Stable` : a property that no operation destroys; `Stable.run` carries it through a run.
-/

set_option autoImplicit false

namespace ProjectPicker.Session

variable {ε : Type} {s s' : Session}

/-- What is done with a session; an `ε` says why a catalogue could not be fetched. -/
inductive Operation (ε : Type) where
  | load (fetched : Except ε (List Template))
  | selectStack (id : Option String)
  | typeGit (location : String)
  | typeZip (location : String) (skip : Bool)
  | toggle (name : String) (checked : Bool)
  | add (source : Source)
  | rename (old new : String)
  | revise (name : String) (edits : Template → Template)
  /-- An editor is saved that was opened at any time. -/
  | save (e : Editor)
  | apply (command : Command)
  | publish (name : String)
  | listen (name : String)
  | unlisten (name : String)

/-- The session that an operation leaves, granted or refused. -/
def operate : Operation ε → Session → Session
  | .load fetched, s => (load fetched).after s
  | .selectStack id, s => (selectStack id).after s
  | .typeGit location, s => s.typeGit location
  | .typeZip location skip, s => s.typeZip location skip
  | .toggle name checked, s => s.toggle name checked
  | .add source, s => (add source).after s
  | .rename old new, s => (rename old new).after s
  | .revise name edits, s => (revise name edits).after s
  | .save e, s => (save.after (e, s)).2
  | .apply command, s => (apply command).after s
  | .publish name, s => (s.announce name).2
  | .listen name, s => s.listen name
  | .unlisten name, s => (s.unlisten name).2

def run (s : Session) (ops : List (Operation ε)) : Session := ops.foldl (fun s op => operate op s) s

/-- A catalogue that is in order is taken as it is. -/
theorem run_load_ordered {catalogue : List Template}
    (ordered : catalogue.Pairwise fun a b => Template.precedes a b = true) (s : Session)
    (ops : List (Operation ε)) :
    s.run (.load (.ok catalogue) :: ops) = Session.run { s with
      board := { s.board with catalogue }
      selector := ({ s.selector with all := catalogue } : Selector).filter } ops := by
  have all : Template.sort catalogue = catalogue := List.mergeSort_of_pairwise ordered
  have loaded : operate (.load (.ok catalogue) : Operation ε) s = { s with
      board := { s.board with catalogue }
      selector := s.selector.fetched { s.board with catalogue } } := rfl
  rw [run, List.foldl_cons, loaded, Selector.fetched, all]
  rfl

/-! ## Publications -/

/-- A subscriber hears the name of an added project and reacts. -/
def hear (name : String) (s : Session) (who : Nat × Subscriber) : Session :=
  (s.note who.2 name).react name who.2

theorem react_git (name : String) (s : Session) :
    s.react name .git = { s with
      git := (s.git.clear name s.board).1, board := (s.git.clear name s.board).2 } := by
  rw [react]

theorem react_zip (name : String) (s : Session) :
    s.react name .zip = { s with
      zip := (s.zip.clear name s.board).1, board := (s.zip.clear name s.board).2 } := by
  rw [react]

theorem react_selector (name : String) (s : Session) :
    s.react name .selector = { s with
      selector := (s.selector.added name s.board).1
      board := (s.selector.added name s.board).2 } := by
  rw [react]

theorem slot_modify (f : Channel Subscriber → Channel Subscriber) (s : Session) :
    slot.modify f s = { s with channel := f s.channel } := rfl

theorem react_modify (f : Channel Subscriber → Channel Subscriber) (who : Subscriber)
    (name : String) (s : Session) :
    (slot.modify f s).react name who = slot.modify f (s.react name who) := by
  cases who with
  | git => simp only [slot_modify, react_git]
  | zip => simp only [slot_modify, react_zip]
  | selector => simp only [slot_modify, react_selector]
  | listener _ => rfl

@[simp] theorem hear_channel (name : String) (s : Session) (who : Nat × Subscriber) :
    (hear name s who).channel = s.channel := by
  obtain ⟨id, who⟩ := who
  cases who with
  | git => simp only [hear, react_git, note]
  | zip => simp only [hear, react_zip, note]
  | selector => simp only [hear, react_selector, note]
  | listener _ => rfl

/-- Being served leaves no trace in the channel. -/
theorem serve_between {id : Nat} (who : Subscriber) (name : String) (s : Session) :
    slot.modify (·.leave id) (serve name id who (slot.modify (·.enter id) s)).run =
      hear name s (id, who) := by
  have noted : (slot.modify (·.enter id) s).note who name =
      slot.modify (·.enter id) (s.note who name) := rfl
  simp only [serve, Id.run]
  rw [noted, react_modify, Slot.leave_enter, hear]

/-- Unless someone is being served, subscribers are served in turn. -/
theorem deliver_eq {name : String} (queue : List (Nat × Subscriber))
    (idle : s.channel.running = []) :
    (slot.deliver (serve name) queue s).run = (queue.length, queue.foldl (hear name) s) := by
  induction queue generalizing s with
  | nil => rfl
  | cons who rest ih =>
    obtain ⟨id, who⟩ := who
    have free : (slot.get s).running.contains id = false := by
      simp [slot, idle]
    rw [Slot.deliver, if_neg (by rw [free]; decide)]
    simp only [Id.run_bind, Id.run_pure, serve_between, List.length_cons, List.foldl_cons]
    rw [ih (by rw [hear_channel, idle])]

theorem announce_eq {name : String} (idle : s.channel.running = []) :
    s.announce name = (s.channel.size, s.channel.subscribers.foldl (hear name) s) :=
  deliver_eq s.channel.subscribers idle

theorem announce_channel {name : String} (idle : s.channel.running = []) :
    (s.announce name).2.channel = s.channel := by
  rw [announce_eq idle]
  generalize s.channel.subscribers = queue
  induction queue generalizing s with
  | nil => rfl
  | cons who rest ih =>
    rw [List.foldl_cons, ih (by rw [hear_channel, idle]), hear_channel]

/-! ## The wiring of the channel -/

/-- The three views are the first subscribers, all others are listeners, and nobody is being
served. -/
structure Wired (c : Channel Subscriber) : Prop where
  idle : c.running = []
  next : 3 ≤ c.nextId
  views : ∃ others, c.subscribers = (0, .git) :: (1, .zip) :: (2, .selector) :: others ∧
    ∀ x ∈ others, 3 ≤ x.1 ∧ ∃ name, x.2 = .listener name

namespace Wired

variable {c : Channel Subscriber}

theorem start (stackList : List Stack) : Wired (start stackList).channel :=
  ⟨rfl, Nat.le_refl 3, [], rfl, fun _ h => nomatch h⟩

theorem subscribe (h : Wired c) (name : String) : Wired (c.subscribe (.listener name)) := by
  obtain ⟨others, ho, hl⟩ := h.views
  refine ⟨h.idle, Nat.le_succ_of_le h.next, others ++ [(c.nextId, .listener name)], ?_, ?_⟩
  · simp [Channel.subscribe, ho]
  · intro x hx
    rcases List.mem_append.1 hx with hx | hx
    · exact hl x hx
    · obtain rfl := List.mem_singleton.1 hx
      exact ⟨h.next, name, rfl⟩

theorem unsubscribe {id : Nat} (h : Wired c) (hid : 3 ≤ id) : Wired (c.unsubscribe id) := by
  obtain ⟨others, ho, hl⟩ := h.views
  refine ⟨h.idle, h.next, others.filter (·.1 != id), ?_, fun x hx => hl x (List.mem_filter.1 hx).1⟩
  have h0 : (0 != id) = true := bne_iff_ne.2 (by omega)
  have h1 : (1 != id) = true := bne_iff_ne.2 (by omega)
  have h2 : (2 != id) = true := bne_iff_ne.2 (by omega)
  simp only [Channel.unsubscribe, ho, List.filter_cons, h0, h1, h2, if_true]

theorem unsubscribeAll {gone : List (Nat × Subscriber)} (h : Wired c) (hg : ∀ x ∈ gone, 3 ≤ x.1) :
    Wired (gone.foldl (fun c x => c.unsubscribe x.1) c) := by
  induction gone generalizing c with
  | nil => exact h
  | cons x rest ih =>
    exact ih (h.unsubscribe (hg x (by simp))) fun y hy => hg y (List.mem_cons_of_mem _ hy)

theorem listener_number {id : Nat} {name : String} (h : Wired c)
    (hm : (id, .listener name) ∈ c.subscribers) : 3 ≤ id := by
  obtain ⟨others, ho, hl⟩ := h.views
  rw [ho] at hm
  simp only [List.mem_cons, Prod.mk.injEq, reduceCtorEq, and_false, false_or] at hm
  exact (hl _ hm).1

theorem earlier_number {name : String} (h : Wired c) :
    ∀ x ∈ c.subscribers.filter fun x => x.2 == .listener name, 3 ≤ x.1 := by
  rintro ⟨id, who⟩ hx
  obtain ⟨hm, hw⟩ := List.mem_filter.1 hx
  obtain rfl := eq_of_beq hw
  exact h.listener_number hm

theorem listen (h : Wired s.channel) (name : String) : Wired (s.listen name).channel :=
  (h.subscribe name).unsubscribeAll h.earlier_number

theorem unlisten (h : Wired s.channel) (name : String) : Wired (s.unlisten name).2.channel :=
  h.unsubscribeAll h.earlier_number

end Wired

/-! ## Stable properties -/

/-- A property that nothing destroys which a session does. -/
structure Stable (P : Session → Prop) : Prop where
  load : ∀ s catalogue, P s → P { s with
    board := { s.board with catalogue }
    selector := s.selector.fetched { s.board with catalogue } }
  activate : ∀ s id, P s → P (s.activate id)
  typeGit : ∀ s location, P s → P (s.typeGit location)
  typeZip : ∀ s location skip, P s → P (s.typeZip location skip)
  toggle : ∀ s name checked, P s → P (s.toggle name checked)
  ready : ∀ s ready edited, P s → P { s with board := { s.board with ready, edited } }
  announce : ∀ s name, P s → P (s.announce name).2
  listen : ∀ s name, P s → P (s.listen name)
  unlisten : ∀ s name, P s → P (s.unlisten name).2

namespace Stable

variable {P : Session → Prop}

theorem announceAll (hP : Stable P) {names : List String} (h : P s) :
    P (s.announceAll names) := by
  induction names generalizing s with
  | nil => exact h
  | cons name rest ih => exact ih (hP.announce s name h)

theorem keeps_load (hP : Stable P) (fetched : Except ε (List Template)) :
    (Session.load fetched).Keeps P := by
  refine (atomic_load fetched).keeps fun s _ s' h hs => ?_
  obtain ⟨catalogue, -, rfl⟩ := load_eq_ok h
  exact hP.load s catalogue hs

theorem keeps_selectStack (hP : Stable P) (id : Option String) : (selectStack id).Keeps P := by
  refine (atomic_selectStack id).keeps fun s _ s' h hs => ?_
  rw [selectStack_eq_ok h]
  exact hP.activate s id hs

theorem keeps_add (hP : Stable P) (source : Source) : (add source).Keeps P := by
  refine (atomic_add source).keeps fun s names s' h hs => ?_
  obtain ⟨batch, -, -, -, rfl⟩ := add_eq_ok h
  exact hP.announceAll (hP.ready s _ s.board.edited hs)

theorem keeps_rename (hP : Stable P) (old new : String) : (rename old new).Keeps P := by
  refine (atomic_rename old new).keeps fun s _ s' h hs => ?_
  obtain ⟨t, -, -, ready, -, rfl⟩ := rename_eq_ok h
  exact hP.ready s ready _ hs

theorem keeps_revise (hP : Stable P) (name : String) (edits : Template → Template) :
    (revise name edits).Keeps P := by
  refine (atomic_revise name edits).keeps fun s _ s' h hs => ?_
  obtain ⟨t, -, -, ready, -, rfl⟩ := revise_eq_ok h
  exact hP.ready s ready _ hs

theorem keeps_save (hP : Stable P) : save.Keeps fun t => P t.2 := by
  refine atomic_save.keeps fun ⟨e, s⟩ _ ⟨e', s'⟩ h hs => ?_
  obtain ⟨-, -, ready, -, rfl⟩ := save_eq_ok h
  exact hP.ready s ready _ hs

theorem keeps_apply (hP : Stable P) (command : Command) : (apply command).Keeps P := by
  cases command with
  | selectStack id => exact hP.keeps_selectStack id
  | setGitLocation location => exact fun s => hP.typeGit s location
  | setZipLocation location skip => exact fun s => hP.typeZip s location skip
  | toggleTemplate name checked => exact fun s => hP.toggle s name checked
  | addFromSource source =>
    exact (hP.keeps_add source).bind fun _ => (Attempt.reads_pure ()).keeps P
  | renameProject old new => exact hP.keeps_rename old new

theorem operate (hP : Stable P) (op : Operation ε) (h : P s) : P (operate op s) := by
  cases op with
  | load fetched => exact hP.keeps_load fetched s h
  | selectStack id => exact hP.keeps_selectStack id s h
  | typeGit location => exact hP.typeGit s location h
  | typeZip location skip => exact hP.typeZip s location skip h
  | toggle name checked => exact hP.toggle s name checked h
  | add source => exact hP.keeps_add source s h
  | rename old new => exact hP.keeps_rename old new s h
  | revise name edits => exact hP.keeps_revise name edits s h
  | save e => exact hP.keeps_save (e, s) h
  | apply command => exact hP.keeps_apply command s h
  | publish name => exact hP.announce s name h
  | listen name => exact hP.listen s name h
  | unlisten name => exact hP.unlisten s name h

theorem run (hP : Stable P) (ops : List (Operation ε)) (h : P s) : P (s.run ops) := by
  induction ops generalizing s with
  | nil => exact h
  | cons op rest ih => exact ih (hP.operate op h)

end Stable

end ProjectPicker.Session
