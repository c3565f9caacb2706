import ProjectPicker.Proofs.Hub
import ProjectPicker.Proofs.Nesting

/-!
# Publications end

* `take_mono` : a step that is taken is taken in the same way if listeners may react more deeply;
* `take_returns` : a step in a hub where nobody subscribes is taken if listeners may react as deeply
  as there are subscribers who wait;
* `Reached.nodup` : wherever code runs in a hub, nobody is served within being served;
* `publications_end` : if nobody subscribes meanwhile, every publication returns, whatever else
  subscribers do, and publications are nested once more than there are subscribers at most.
-/

set_option autoImplicit false

namespace ProjectPicker.Hub

variable {nested nested' : Step → Hub → Option (Answer × Hub)} {depth more : Nat} {step : Step}
  {answer : Answer} {h h' : Hub} {l : Listener} {enclosing : List Nat} {payload : String}
  {subscribers : List (Nat × Listener)}

/-! ## Deeper reactions make no difference -/

section Mono

variable (each : ∀ step h answer h', nested step h = some (answer, h') →
  nested' step h = some (answer, h'))

include each

theorem takeSteps_mono {name : String} {steps : List Step}
    (ran : Listener.takeSteps nested record name steps h = some h') :
    Listener.takeSteps nested' record name steps h = some h' := by
  induction steps generalizing h with
  | nil => exact ran
  | cons step rest ih =>
    obtain ⟨⟨answer, u⟩, taken, ran⟩ := Option.bind_eq_some_iff.1 ran
    exact Option.bind_eq_some_iff.2 ⟨(answer, u), each _ _ _ _ taken, ih ran⟩

theorem perform_mono (taken : perform nested step h = some (answer, h')) :
    perform nested' step h = some (answer, h') := by
  cases step with
  | subscribe topic name on => exact taken
  | act action =>
    cases action with
    | publish payload =>
      simp only [perform] at taken ⊢
      split at taken
      · next isOpen =>
        obtain ⟨⟨served, u⟩, published, taken⟩ := Option.bind_eq_some_iff.1 taken
        rw [if_pos isOpen]
        exact Option.bind_eq_some_iff.2 ⟨(served, u),
          Slot.deliver_mono (fun _ _ _ _ => takeSteps_mono each) published, taken⟩
      · next closed =>
        rw [if_neg closed]
        exact taken
    | _ => exact taken

end Mono

theorem take_succ (taken : take depth step h = some (answer, h')) :
    take (depth + 1) step h = some (answer, h') := by
  induction depth generalizing step h answer h' with
  | zero => exact perform_mono (fun _ _ _ _ never => by cases never) taken
  | succ depth ih => exact perform_mono (fun _ _ _ _ => ih) taken

theorem take_mono (le : depth ≤ more) (taken : take depth step h = some (answer, h')) :
    take more step h = some (answer, h') := by
  induction le with
  | refl => exact taken
  | step _ ih => exact take_succ ih

/-! ## Listeners that subscribe nobody -/

/-- A listener that subscribes nobody, whatever it hears. -/
def Settled (l : Listener) : Prop :=
  ∀ payload, ∀ step ∈ l.reactions payload, ∃ action, step = .act action

theorem thins_release (h : Hub) (name : String) : slot.Thins h (h.release name).2 := by
  unfold release
  split
  · next id _ =>
    exact (Slot.Thins.unsubscribe slot id h).trans (.elsewhere rfl)
  · exact .refl slot h

theorem hear_returns (settled : Settled l) (confined : slot.Confined subscribers enclosing h)
    (each : ∀ action u, slot.Confined subscribers enclosing u →
      ∃ answer u', nested (.act action) u = some (answer, u') ∧ slot.Thins u u') :
    ∃ h', l.hear nested record payload h = some h' ∧ slot.Thins h h' := by
  have steps : ∀ rest : List Step, (∀ step ∈ rest, ∃ action, step = .act action) →
      ∀ u, slot.Thins h u →
        ∃ h', Listener.takeSteps nested record l.name rest u = some h' ∧ slot.Thins h h' := by
    intro rest
    induction rest with
    | nil => exact fun _ u before => ⟨u, rfl, before⟩
    | cons step rest ih =>
      intro acts u before
      obtain ⟨action, rfl⟩ := acts step List.mem_cons_self
      obtain ⟨answer, u', taken, thins⟩ := each action u (confined.thins before)
      obtain ⟨h', ran, after⟩ := ih (fun step hs => acts step (List.mem_cons_of_mem _ hs))
        (record (.did l.name (.act action) answer) u') ((before.trans thins).trans (.elsewhere rfl))
      exact ⟨h', Option.bind_eq_some_iff.2 ⟨(answer, u'), taken, ran⟩, after⟩
  exact steps _ (settled payload) _ (.elsewhere rfl)

theorem perform_returns (settled : ∀ who ∈ subscribers, Settled who.2)
    (confined : slot.Confined subscribers enclosing h)
    (each : ∀ who ∈ subscribers, who.1 ∉ enclosing → ∀ action u,
      slot.Confined subscribers (who.1 :: enclosing) u →
        ∃ answer u', nested (.act action) u = some (answer, u') ∧ slot.Thins u u')
    (action : Action) :
    ∃ answer h', perform nested (.act action) h = some (answer, h') ∧ slot.Thins h h' := by
  cases action with
  | publish payload =>
    rw [perform]
    split
    · have turn : ∀ id l u, (id, l) ∈ h.channel.subscribers → id ∉ enclosing →
          slot.Confined subscribers (id :: enclosing) u →
            ∃ u', hears nested payload id l u = some u' ∧ slot.Thins u u' := by
        intro id l u hl idle within
        have subscribed := confined.subscribed hl
        exact hear_returns (settled _ subscribed) within (each _ subscribed idle)
      obtain ⟨served, u, published, thins⟩ := confined.deliver_returns turn
      exact ⟨.count served, u, Option.bind_eq_some_iff.2 ⟨(served, u), published, rfl⟩, thins⟩
    · exact ⟨.closed, h, rfl, .refl slot h⟩
  | unsubscribe name => exact ⟨_, _, rfl, thins_release h name⟩
  | drop name => exact ⟨_, _, rfl, thins_release h name⟩
  | count => exact ⟨_, h, rfl, .refl slot h⟩
  | debug name => exact ⟨_, h, rfl, .refl slot h⟩
  | close => exact ⟨_, _, rfl, .elsewhere rfl⟩

/-- Listeners react no more deeply than there are subscribers who wait. -/
theorem take_returns (settled : ∀ who ∈ subscribers, Settled who.2)
    (confined : slot.Confined subscribers enclosing h)
    (enough : (Slot.waiting enclosing subscribers).length ≤ depth) (action : Action) :
    ∃ answer h', take depth (.act action) h = some (answer, h') ∧ slot.Thins h h' := by
  induction depth generalizing enclosing h action with
  | zero =>
    refine perform_returns settled confined (fun who hw idle => ?_) action
    exact absurd (Slot.waiting_enter_lt hw idle) (by omega)
  | succ depth ih =>
    refine perform_returns settled confined (fun who hw idle action u within => ?_) action
    have fewer := Slot.waiting_enter_lt hw idle
    exact ih within (by omega) action

/-! ## Publications end -/

/-- Wherever a channel is, whose subscribers react to a payload by any course in which nobody
subscribes, all that is published while nobody is being served returns, and so does all that is
published meanwhile; publications are nested once more than there are subscribers at most, and
nobody is served within being served. So it is in a hub, where listeners need not react more deeply
than there are subscribers, and where nobody is ever served within being served. -/
theorem publications_end :
    (∀ {σ η π : Type} (slot : Slot σ η) (react : Nat → η → π → slot.Course π) (s : σ),
      (slot.get s).running = [] → ∀ payload, slot.Ends react payload s (slot.get s).size) ∧
    (∀ h : Hub, h.channel.running = [] → (∀ who ∈ h.channel.subscribers, Settled who.2) →
      ∀ action, ∃ answer h', ∀ depth, h.channel.size ≤ depth →
        take depth (.act action) h = some (answer, h')) ∧
    ∀ enclosing h, Reached enclosing h → enclosing.Nodup := by
  refine ⟨fun slot react s idle payload => Slot.ends_of_idle react payload idle,
    fun h idle settled action => ?_, fun enclosing h reached => ?_⟩
  · have enough : (Slot.waiting [] h.channel.subscribers).length ≤ h.channel.size :=
      List.length_filter_le ..
    obtain ⟨answer, h', taken, -⟩ :=
      take_returns settled (⟨idle, fun _ hx => hx⟩ : slot.Confined _ [] h) enough action
    exact ⟨answer, h', fun depth le => take_mono le taken⟩
  · obtain ⟨history, code⟩ := reached.code
    exact code.nodup

def bare : Slot (Channel Unit) Unit where
  get c := c
  set c _ := c

def pair : Channel Unit := { nextId := 2, subscribers := [(0, ()), (1, ())] }

/-- Whatever it hears, a subscriber publishes the next number twice and ends its subscription. -/
def counting (id : Nat) (_ : Unit) (n : Nat) : bare.Course Nat :=
  .publish (n + 1) fun _ => .publish (n + 1) fun _ => .unsubscribe id .done

/-- A listener that publishes whenever it hears something. -/
def echo (name payload : String) : Listener := ⟨name, [("*", [.act (.publish payload)])]⟩

/-- Two listeners that keep each other awake. -/
def echoing : Hub where
  channel := { nextId := 2, subscribers := [(0, echo "a" "x"), (1, echo "b" "y")] }

theorem settled_echo (name payload : String) : Settled (echo name payload) := by
  intro heard step taken
  have only : (echo name payload).reactions heard = [.act (.publish payload)] := by
    rw [echo, Listener.reactions, List.lookup_cons, List.lookup_cons]
    cases heard == "*" <;> rfl
  rw [only, List.mem_singleton] at taken
  exact ⟨_, taken⟩

/-- While the first subscriber is served for 0, the second one is served for 1, and while it is,
there is nobody to serve for 2; the listeners hear each other once. -/
theorem publications_end_echoing :
    (∃ c, Slot.publishWithin bare counting 3 0 pair = some (2, c) ∧ c.subscribers = []) ∧
    (∃ c, Slot.Nested bare counting 0 pair [1, 0] 2 c ∧ c.running = [1, 0] ∧
      ∃ n c', ∀ levels, 1 ≤ levels → Slot.publishWithin bare counting levels 2 c = some (n, c')) ∧
    ∃ h', ∀ depth, 2 ≤ depth →
      take depth (.act (.publish "z")) echoing = some (.count 2, h') := by
  have ends := publications_end.1 bare counting pair rfl 0
  have first : Slot.Nested bare counting 0 pair [0] 1 (pair.enter 0) :=
    @Slot.Nested.within _ _ _ bare counting 0 pair [] 0 1 0 _ _ _ (0, ()) .outermost (.now rfl) .now
  have second : Slot.Nested bare counting 0 pair [1, 0] 2 ((pair.enter 0).enter 1) :=
    @Slot.Nested.within _ _ _ bare counting 0 pair [0] 1 2 0 _ _ _ (1, ()) first
      (.passed rfl (.now rfl)) .now
  obtain ⟨n, c', returned⟩ := ends.returns _ _ _ second
  have settled : ∀ who ∈ echoing.channel.subscribers, Settled who.2 := by
    intro who hw
    simp only [echoing, List.mem_cons, List.not_mem_nil, or_false] at hw
    obtain rfl | rfl := hw
    · exact settled_echo "a" "x"
    · exact settled_echo "b" "y"
  obtain ⟨answer, h', taken⟩ := publications_end.2.1 echoing rfl settled (.publish "z")
  have count : answer = .count 2 :=
    congrArg Prod.fst (Option.some.inj (taken 2 (Nat.le_refl 2))).symm
  refine ⟨⟨_, rfl, rfl⟩, ⟨_, second, rfl, n, c', fun levels le => returned levels ?_⟩, h', ?_⟩
  · exact Nat.add_le_add_left le 2
  · rw [← count]
    exact taken

end ProjectPicker.Hub
