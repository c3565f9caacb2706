import ProjectPicker.Proofs.Hub

/-!
# Publications in a hub

* `take_publish` : publishing in a hub is publishing in its channel, where listeners hear the
  payload;
* `publish_snapshot` : every publication that returns has served a snapshot of the subscribers,
  whatever they did meanwhile.
-/

set_option autoImplicit false

namespace ProjectPicker.Hub

variable {depth n : Nat} {payload : String} {h h' : Hub}

theorem take_publish (taken : take depth (.act (.publish payload)) h = some (.count n, h')) :
    slot.publish (hears (reactions depth) payload) h = some (n, h') := by
  rw [take_eq, perform] at taken
  split at taken
  · obtain ⟨⟨served, u⟩, published, taken⟩ := Option.bind_eq_some_iff.1 taken
    cases taken
    exact published
  · cases taken

/-- Wherever code runs that uses a channel, also while subscribers are being served, a publication
serves exactly those who were subscribed when it began and were not being served around it, each
once, in the order of their subscription, and counts them. It returns if each of them does. So does
every publication in a hub, where they are listeners, react in any way, and hear its payload. -/
theorem publish_snapshot :
    (∀ {σ η : Type} (slot : Slot σ η) (serve : Nat → η → σ → Option σ), slot.Behaved serve →
      ∀ history enclosing s, slot.Reached history enclosing s →
        slot.publish serve s = ((slot.due enclosing s).foldlM (slot.serveOne serve) s).map
          ((slot.due enclosing s).length, ·) ∧
        ∀ n s', slot.publish serve s = some (n, s') → slot.Snapshot serve enclosing s n s') ∧
    ∀ enclosing h, Reached enclosing h → ∀ depth payload n h',
      take depth (.act (.publish payload)) h = some (.count n, h') →
        slot.Snapshot (hears (reactions depth) payload) enclosing h n h' := by
  refine ⟨fun slot serve behaved history enclosing s reached => ⟨reached.publish_eq behaved,
    fun n s' => reached.snapshot behaved⟩, fun enclosing h reached depth payload n h' taken => ?_⟩
  obtain ⟨history, code⟩ := reached.code
  exact code.snapshot (behaved_hears depth payload) (take_publish taken)

/-- A listener that publishes itself, ends a subscription, makes another, and gives up the hub. -/
def ringing : Listener :=
  ⟨"a", [("outer", [.act (.publish "inner"), .act (.drop "b"), .subscribe () "c" [],
    .act .close])]⟩

def attended : Hub where
  channel := { nextId := 2, subscribers := [(0, ringing), (1, ⟨"b", []⟩)] }
  held := [("a", 0), ("b", 1)]

theorem reached_attended : Reached [] attended := by
  have first : Reached [] (({} : Hub).subscribe ringing).2 :=
    @Reached.take _ 0 (.subscribe () "a" ringing.on) _ _ _ .start rfl
  exact @Reached.take _ 0 (.subscribe () "b" []) _ _ _ first rfl

/-- The listener `a` has heard `outer` and is about to publish. -/
def ringingNow : Hub :=
  record (.heard "a" "outer") (slot.modify (·.enter 0) attended)

theorem reached_ringingNow : Reached [0] ringingNow :=
  @Reached.within _ 1 _ "outer" _ _ _ _ _ reached_attended rfl (.now rfl) .now

/-- Both hear `outer`, though meanwhile `b` is unsubscribed and `c` subscribes; of `inner` the
listener `a`, who publishes it, hears nothing. -/
theorem publish_snapshot_nested :
    (∃ h', take 1 (.act (.publish "outer")) attended = some (.count 2, h') ∧
      h'.channel.subscribers = [(0, ringing), (2, ⟨"c", []⟩)] ∧
      slot.Snapshot (hears (reactions 1) "outer") [] attended 2 h') ∧
    ∃ h', take 0 (.act (.publish "inner")) ringingNow = some (.count 1, h') ∧
      slot.due [0] ringingNow = [(1, ⟨"b", []⟩)] ∧
      (∃ history, slot.Reached history [0] ringingNow) ∧
      slot.Snapshot (hears (reactions 0) "inner") [0] ringingNow 1 h' := by
  obtain ⟨general, hub⟩ := publish_snapshot
  obtain ⟨history, code⟩ := reached_ringingNow.code
  obtain ⟨-, snapshot⟩ := general slot _ (behaved_hears 0 "inner") history [0] ringingNow code
  have inner := snapshot _ _ rfl
  have outer := hub [] attended reached_attended 1 "outer" _ _ rfl
  exact ⟨⟨_, rfl, rfl, outer⟩, _, rfl, rfl, ⟨history, code⟩, inner⟩

end ProjectPicker.Hub
