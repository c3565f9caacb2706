import Mathlib.Data.List.Induction
import ProjectPicker.Proofs.Session.Announcements
import ProjectPicker.Proofs.Session.Effects
import ProjectPicker.Proofs.Template

/-!
# The templates listed, as told by what was loaded and activated

* `Turn`, `history` : what decides about the list in a run, the latest first: catalogues that were
  loaded, and known stacks that became active;
* `ListedAfter` : the list that a history comes to. Every turn lists the matching templates of the
  last catalogue anew, unless the last stack has no tags;
* `SameListing`, `sameListing_of_effect` : all operations but those turns leave alone what is listed
  and what the list is made from;
* `FollowsHistory.operate` : an operation lists what the history comes to that it adds to;
* `listing_follows_history` : so what is listed after a run is what its history comes to.
-/

set_option autoImplicit false

namespace ProjectPicker.Session

variable {ε : Type} {s s' t : Session} {op : Operation ε} {stackList : List Stack}

/-! ## Histories -/

/-- What decides about the list: a catalogue is loaded, or a stack becomes active. -/
inductive Turn where
  | loaded (catalogue : List Template)
  | activated (stack : Stack)

/-- What an operation decides, if anything. A fetch that fails decides nothing, nor does an unknown
stack, nor that no stack is active. -/
def turn? (stackList : List Stack) : Operation ε → Option Turn
  | .load (.ok catalogue) => some (.loaded catalogue)
  | .selectStack (some id) => (Stack.find? stackList id).map .activated
  | .apply (.selectStack (some id)) => (Stack.find? stackList id).map .activated
  | _ => none

/-- What a run decides, the latest first. -/
def history (stackList : List Stack) (ops : List (Operation ε)) : List Turn :=
  (ops.filterMap (turn? stackList)).reverse

def lastCatalogue : List Turn → List Template
  | [] => []
  | .loaded catalogue :: _ => catalogue
  | .activated _ :: earlier => lastCatalogue earlier

def lastTags : List Turn → List String
  | [] => []
  | .loaded _ :: earlier => lastTags earlier
  | .activated stack :: _ => stack.tags.map Text.lower

/-- The list that a history comes to. -/
inductive ListedAfter : List Turn → List Template → Prop
  | start : ListedAfter [] []
  | stays {turn : Turn} {earlier : List Turn} {listed : List Template}
      (before : ListedAfter earlier listed) (untagged : lastTags (turn :: earlier) = []) :
      ListedAfter (turn :: earlier) listed
  | anew {turn : Turn} {earlier : List Turn} {listed : List Template}
      (tagged : lastTags (turn :: earlier) ≠ [])
      (sorted : Template.StablySorted ((lastCatalogue (turn :: earlier)).filter fun t =>
        t.Carries (lastTags (turn :: earlier))) listed) :
      ListedAfter (turn :: earlier) listed

theorem ListedAfter.unique {turns : List Turn} {listed other : List Template}
    (h : ListedAfter turns listed) (h' : ListedAfter turns other) : listed = other := by
  induction h with
  | start =>
    cases h'
    rfl
  | stays _ untagged ih =>
    cases h' with
    | stays before' _ => exact ih before'
    | anew tagged _ => exact absurd untagged tagged
  | anew tagged sorted =>
    cases h' with
    | stays _ untagged => exact absurd untagged tagged
    | anew _ sorted' => exact sorted.unique sorted'

/-- Keeping the catalogue sorted and leaving out the others comes to the same as sorting those that
match. -/
theorem ListedAfter.relist {earlier : List Turn} {listed : List Template}
    (before : ListedAfter earlier listed) (turn : Turn) :
    let turns := turn :: earlier
    ListedAfter turns (if (lastTags turns).isEmpty then listed
      else (Template.sort (lastCatalogue turns)).filter (·.hasTag (lastTags turns))) := by
  intro turns
  split
  · next untagged => exact .stays before (List.isEmpty_iff.1 untagged)
  · next tagged =>
    refine .anew (mt List.isEmpty_iff.2 tagged) ?_
    simp only [Template.hasTag_eq]
    exact (Template.stablySorted_sort (lastCatalogue turns)).filter _

theorem listedAfter_loaded {catalogue listed : List Template}
    (h : ListedAfter [.loaded catalogue] listed) : listed = [] := by
  cases h with
  | stays before _ => exact before.unique .start
  | anew tagged _ => exact absurd rfl tagged

/-- Where no stack was active before, a stack lists the templates that carry its tags: none if it
has no tags. -/
theorem listedAfter_activated {catalogue listed : List Template} {stack : Stack}
    (h : ListedAfter [.activated stack, .loaded catalogue] listed) :
    Template.StablySorted (catalogue.filter fun t => t.Carries (lowerTags stack.tags)) listed := by
  cases h with
  | stays before untagged =>
    have tags : lowerTags stack.tags = [] := untagged
    rw [tags, Template.filter_carries_nil, listedAfter_loaded before]
    exact ⟨.nil, fun _ => rfl⟩
  | anew _ sorted => exact sorted

/-! ## What does not decide -/

/-- What is listed, and what the list is made from, are as before. -/
structure SameListing (s s' : Session) : Prop where
  known : s'.board.stackList = s.board.stackList
  tags : s'.selector.stackTags = s.selector.stackTags
  all : s'.selector.all = s.selector.all
  listed : s'.selector.listed = s.selector.listed

theorem SameListing.refl (s : Session) : SameListing s s := ⟨rfl, rfl, rfl, rfl⟩

theorem SameListing.trans (h : SameListing s t) (h' : SameListing t s') : SameListing s s' :=
  ⟨h'.known.trans h.known, h'.tags.trans h.tags, h'.all.trans h.all, h'.listed.trans h.listed⟩

theorem sameListing_announce (wired : Wired s.channel) (name : String) :
    SameListing s (s.announce name).2 := by
  rw [announced wired]
  refine ⟨rfl, ?_, ?_, ?_⟩ <;>
  · dsimp only
    rw [Selector.added]
    split <;> rfl

theorem sameListing_announceAll {names : List String} (wired : Wired s.channel)
    (inStep : InStep s) : SameListing s (s.announceAll names) :=
  announceAll_keeps (P := SameListing s) wired inStep
    (fun _ name wired _ h => h.trans (sameListing_announce wired name)) (.refl s)

/-- Only a fetch and a change of stack decide about the list. -/
theorem sameListing_of_effect (wired : Wired s.channel) (inStep : InStep s) (h : Effect s op s')
    (noFetch : ∀ fetched, op ≠ .load fetched) (noStack : ∀ id, op ≠ .selectStack id) :
    SameListing s s' := by
  cases h with
  | refused => exact .refl s
  | load => exact absurd rfl (noFetch _)
  | selectStack => exact absurd rfl (noStack _)
  | typeGit => exact ⟨rfl, rfl, rfl, rfl⟩
  | typeZip => exact ⟨rfl, rfl, rfl, rfl⟩
  | toggle => exact ⟨rfl, rfl, rfl, rfl⟩
  | @add _ batch =>
    have appended : SameListing s (s.appended batch) := ⟨rfl, rfl, rfl, rfl⟩
    exact appended.trans (sameListing_announceAll wired (inStep.appended batch))
  | write => exact ⟨rfl, rfl, rfl, rfl⟩
  | publish => exact sameListing_announce wired _
  | listen => exact ⟨rfl, rfl, rfl, rfl⟩
  | unlisten => exact ⟨rfl, rfl, rfl, rfl⟩

/-! ## What decides -/

theorem selectStack_known {id : String} {stack : Stack}
    (h : Stack.find? s.board.stackList id = some stack) :
    (selectStack (some id)).run s = .ok () (s.activate (some id)) := by
  simp only [selectStack, EStateM.run_bind, EStateM.run_get, h, Option.isSome_some,
    Attempt.run_require_true]
  rfl

theorem selectStack_unknown {id : String} (h : Stack.find? s.board.stackList id = none) :
    (selectStack (some id)).run s = .error (.unknownStack id) s := by
  simp [selectStack, h]

/-- A session lists what a history comes to, and keeps what the next turn is decided by. -/
structure FollowsHistory (stackList : List Stack) (turns : List Turn) (s : Session) : Prop where
  known : s.board.stackList = stackList
  tags : s.selector.stackTags = lastTags turns
  all : s.selector.all = Template.sort (lastCatalogue turns)
  listed : ListedAfter turns s.selector.listed

namespace FollowsHistory

variable {turns : List Turn}

theorem start (stackList : List Stack) : FollowsHistory stackList [] (start stackList) :=
  ⟨rfl, rfl, (List.mergeSort_nil).symm, .start⟩

theorem sameListing (h : FollowsHistory stackList turns s) (same : SameListing s s') :
    FollowsHistory stackList turns s' where
  known := same.known.trans h.known
  tags := same.tags.trans h.tags
  all := same.all.trans h.all
  listed := same.listed ▸ h.listed

theorem load (h : FollowsHistory stackList turns s) (catalogue : List Template) :
    FollowsHistory stackList (.loaded catalogue :: turns)
      (operate (.load (.ok catalogue) : Operation ε) s) where
  known := h.known
  tags := h.tags
  all := rfl
  listed := by
    have listed := h.listed.relist (.loaded catalogue)
    simp only [lastTags, ← h.tags] at listed
    exact listed

theorem activate (h : FollowsHistory stackList turns s) {id : String} {stack : Stack}
    (found : Stack.find? stackList id = some stack) :
    FollowsHistory stackList (.activated stack :: turns) (s.activate (some id)) := by
  have tags : Stack.activeTags s.board.stackList id = stack.tags.map Text.lower := by
    rw [Stack.activeTags, h.known, found]
    rfl
  refine ⟨h.known, tags, h.all, ?_⟩
  have listed := h.listed.relist (.activated stack)
  simp only [lastTags, lastCatalogue, ← tags, ← h.all] at listed
  exact listed

/-- A change of stack decides if the stack is known. -/
theorem selectStack (h : FollowsHistory stackList turns s) (id : Option String) :
    FollowsHistory stackList
      ((turn? stackList (.selectStack id : Operation ε)).toList ++ turns)
      ((Session.selectStack id).after s) := by
  cases id with
  | none => exact ⟨h.known, h.tags, h.all, h.listed⟩
  | some id =>
    cases found : Stack.find? stackList id with
    | none =>
      rw [Attempt.after_of_error (selectStack_unknown (h.known ▸ found))]
      simpa [turn?, found] using h
    | some stack =>
      rw [Attempt.after_of_ok (selectStack_known (h.known ▸ found))]
      simpa [turn?, found] using h.activate found

/-- An operation adds to the history what it decides, and lists accordingly. -/
theorem operate (h : FollowsHistory stackList turns s) (wired : Wired s.channel)
    (inStep : InStep s) (op : Operation ε) :
    FollowsHistory stackList ((turn? stackList op).toList ++ turns) (operate op s) := by
  have other : turn? stackList op = none → (∀ fetched, op.plain ≠ .load fetched) →
      (∀ id, op.plain ≠ .selectStack id) →
      FollowsHistory stackList ((turn? stackList op).toList ++ turns) (Session.operate op s) := by
    intro nothing noFetch noStack
    rw [nothing]
    exact h.sameListing (sameListing_of_effect wired inStep (operate_effect s op) noFetch noStack)
  cases op with
  | load fetched =>
    cases fetched with
    | ok catalogue => exact h.load catalogue
    | error e => exact h
  | selectStack id => exact h.selectStack id
  | apply command =>
    cases command with
    | selectStack id =>
      cases id with
      | none => exact h.selectStack (ε := ε) none
      | some id => exact h.selectStack (ε := ε) (some id)
    | _ =>
      refine other rfl ?_ ?_ <;> simp [Operation.plain, Operation.ofCommand]
  | _ =>
    refine other rfl ?_ ?_ <;> simp [Operation.plain]

theorem run (stackList : List Stack) (ops : List (Operation ε)) :
    FollowsHistory stackList (history stackList ops) ((Session.start stackList).run ops) := by
  induction ops using List.reverseRecOn with
  | nil => exact start stackList
  | append_singleton before op ih =>
    obtain ⟨wired, inStep⟩ := run_inStep stackList before
    have added : history stackList (before ++ [op]) =
        (turn? stackList op).toList ++ history stackList before := by
      rw [history, List.filterMap_append, List.reverse_append]
      cases h : turn? stackList op <;> simp [h, history]
    rw [run_concat, added]
    exact ih.operate wired inStep op

end FollowsHistory

/-- The first stack to become active over a catalogue lists those of its templates that carry a tag
of the stack. -/
theorem activate_listed (catalogue : List Template) {id : String} {stack : Stack}
    (found : Stack.find? stackList id = some stack) :
    let s := operate (.load (.ok catalogue) : Operation ε) (start stackList)
    Template.StablySorted (catalogue.filter fun t => t.Carries (lowerTags stack.tags))
      (s.activate (some id)).selector.listed := by
  intro s
  have follows : FollowsHistory stackList [.activated stack, .loaded catalogue]
      (s.activate (some id)) :=
    ((FollowsHistory.start stackList).load catalogue).activate found
  exact listedAfter_activated follows.listed

/-- The templates listed after a run are those that its history comes to, which tells nothing but
the catalogues that were loaded and the stacks that became active. Just the known stacks can become
active. -/
theorem listing_follows_history (stackList : List Stack) (ops : List (Operation ε)) :
    let s := (start stackList).run ops
    (∀ listed, ListedAfter (history stackList ops) listed ↔ s.selector.listed = listed) ∧
      ∀ id, (∃ s', (selectStack (some id)).run s = .ok () s') ↔
        ∃ stack, Stack.find? stackList id = some stack := by
  intro s
  have follows : FollowsHistory stackList (history stackList ops) s := .run stackList ops
  refine ⟨fun listed => ⟨follows.listed.unique, fun h => h ▸ follows.listed⟩, fun id => ?_⟩
  rw [← follows.known]
  constructor
  · rintro ⟨s', granted⟩
    refine Option.ne_none_iff_exists'.1 fun unknown => ?_
    rw [selectStack_unknown unknown] at granted
    cases granted
  · rintro ⟨stack, known⟩
    exact ⟨_, selectStack_known known⟩

end ProjectPicker.Session
