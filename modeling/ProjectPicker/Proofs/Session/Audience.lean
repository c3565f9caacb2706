import ProjectPicker.Proofs.Session.Effects

/-!
# Who listens to a session

* `Session.audience` : the listeners that joined in the course of operations and have not left;
* `foldl_unsubscribe`, `ended_earlier` : ending the subscriptions of a listener takes out that
  listener and nobody else;
* `Session.Attended` : the subscribers of a session are its three views and these listeners;
* `attended_run` : so it is after every run;
* `Attended.finish_eq`, `Attended.finish_subscribers` : when a session ends, its views end their own
  subscriptions, and the listeners are left.
-/

set_option autoImplicit false

namespace ProjectPicker.Session

variable {ε : Type} {s s' : Session} {op : Operation ε} {names : List String}
  {c : Channel Subscriber} {name : String}

/-- The listeners that are there after an operation, in the order in which they joined. -/
def Operation.audience (names : List String) : Operation ε → List String
  | .listen name => names.filter (· != name) ++ [name]
  | .unlisten name => names.filter (· != name)
  | _ => names

/-- The listeners that joined in the course of operations and have not left. -/
def audience (ops : List (Operation ε)) : List String := ops.foldl Operation.audience []

theorem audience_concat (ops : List (Operation ε)) (op : Operation ε) :
    audience (ops ++ [op]) = op.audience (audience ops) := by
  simp [audience]

theorem audience_plain (op : Operation ε) (names : List String) :
    op.plain.audience names = op.audience names := by
  cases op with
  | apply command => cases command <;> rfl
  | _ => rfl

/-! ## Ending subscriptions -/

theorem foldl_unsubscribe (gone : List (Nat × Subscriber)) (c : Channel Subscriber) :
    gone.foldl (fun c x => c.unsubscribe x.1) c =
      { c with subscribers :=
          c.subscribers.filter fun x => !(gone.map Prod.fst).contains x.1 } := by
  induction gone generalizing c with
  | nil => simp
  | cons g rest ih =>
    rw [List.foldl_cons, ih]
    simp only [Channel.unsubscribe, List.filter_filter, List.map_cons, List.contains_cons]
    refine congrArg (fun subscribers => { c with subscribers }) (List.filter_congr fun x _ => ?_)
    rw [Bool.not_or, Bool.and_comm]
    rfl

theorem ended_earlier {who : Subscriber} (numbers : (c.subscribers.map Prod.fst).Nodup) :
    (c.subscribers.filter fun x =>
      !((c.subscribers.filter fun x => x.2 == who).map Prod.fst).contains x.1) =
        c.subscribers.filter fun x => x.2 != who := by
  refine List.filter_congr fun x hx => ?_
  rw [Bool.eq_iff_iff, Bool.not_eq_true', List.contains_eq_mem, decide_eq_false_iff_not, bne_iff_ne]
  refine not_congr ⟨fun ended => ?_, fun same => ?_⟩
  · obtain ⟨y, hy, number⟩ := List.mem_map.1 ended
    obtain ⟨hy, same⟩ := List.mem_filter.1 hy
    rw [← List.inj_on_of_nodup_map numbers hy hx number]
    exact eq_of_beq same
  · exact List.mem_map_of_mem (List.mem_filter.2 ⟨hx, beq_iff_eq.2 same⟩)

/-! ## The subscribers of a session -/

/-- The subscribers are the three views and after them these listeners, under numbers of their
own. -/
structure Attended (c : Channel Subscriber) (names : List String) : Prop where
  wired : Wired c
  numbers : (c.subscribers.map Prod.fst).Nodup
  given : ∀ x ∈ c.subscribers, x.1 < c.nextId
  subscribers : c.subscribers.map Prod.snd =
    .git :: .zip :: .selector :: names.map Subscriber.listener

theorem filter_listeners (name : String) (names : List String) :
    (Subscriber.git :: .zip :: .selector :: names.map Subscriber.listener).filter
      (· != .listener name) =
        .git :: .zip :: .selector :: (names.filter (· != name)).map Subscriber.listener := by
  have views : (Subscriber.git != .listener name) = true ∧
      (Subscriber.zip != .listener name) = true ∧
      (Subscriber.selector != .listener name) = true := by
    simp [bne_iff_ne]
  have listeners : ((· != Subscriber.listener name) ∘ Subscriber.listener) = (· != name) := by
    funext other
    rw [Function.comp, Bool.eq_iff_iff, bne_iff_ne, bne_iff_ne, ne_eq, Subscriber.listener.injEq]
  rw [List.filter_cons, if_pos views.1, List.filter_cons, if_pos views.2.1, List.filter_cons,
    if_pos views.2.2, List.filter_map, listeners]

namespace Attended

theorem start (stackList : List Stack) : Attended (start stackList).channel [] := by
  have subscribers : (Session.start stackList).channel.subscribers =
      [(0, .git), (1, .zip), (2, .selector)] := rfl
  refine ⟨.start stackList, ?_, ?_, rfl⟩
  · rw [subscribers]
    decide
  · rw [subscribers]
    have next : (Session.start stackList).channel.nextId = 3 := rfl
    rw [next]
    decide

theorem without (h : Attended c names) (name : String) :
    Attended { c with subscribers := c.subscribers.filter fun x => x.2 != .listener name }
      (names.filter (· != name)) where
  wired := by
    have earlier : ∀ x ∈ c.subscribers.filter fun x => x.2 == .listener name, 3 ≤ x.1 :=
      h.wired.earlier_number
    have gone := h.wired.unsubscribeAll earlier
    rwa [foldl_unsubscribe, ended_earlier h.numbers] at gone
  numbers := h.numbers.sublist (List.filter_sublist.map _)
  given x hx := h.given x (List.mem_filter.1 hx).1
  subscribers := by
    rw [← filter_listeners, ← h.subscribers, List.filter_map]
    rfl

theorem subscribe (h : Attended c names) (name : String) :
    Attended (c.subscribe (.listener name)) (names ++ [name]) where
  wired := h.wired.subscribe name
  numbers := by
    rw [Channel.subscribe, List.map_append, List.nodup_append]
    refine ⟨h.numbers, List.nodup_singleton _, fun i hi j hj => ?_⟩
    obtain ⟨x, hx, rfl⟩ := List.mem_map.1 hi
    rw [List.mem_singleton.1 hj]
    exact Nat.ne_of_lt (h.given x hx)
  given x hx := by
    obtain hx | hx := List.mem_append.1 hx
    · exact Nat.lt_succ_of_lt (h.given x hx)
    · rw [List.mem_singleton.1 hx]
      exact Nat.lt_succ_self _
  subscribers := by
    rw [Channel.subscribe, List.map_append, h.subscribers, List.map_append]
    rfl

theorem unlisten (h : Attended s.channel names) (name : String) :
    Attended (s.unlisten name).2.channel (names.filter (· != name)) := by
  have left := h.without name
  rwa [← ended_earlier h.numbers, ← foldl_unsubscribe] at left

/-- The subscription that a listener had before ends after the new one is made, but it might as well
end before that. -/
theorem listen (h : Attended s.channel names) (name : String) :
    Attended (s.listen name).channel (names.filter (· != name) ++ [name]) := by
  have joined := (h.without name).subscribe name
  have new : ∀ gone ⊆ s.channel.subscribers,
      (gone.map Prod.fst).contains s.channel.nextId = false := by
    intro gone sub
    rw [List.contains_eq_mem, decide_eq_false_iff_not]
    intro given
    obtain ⟨x, hx, number⟩ := List.mem_map.1 given
    exact Nat.ne_of_lt (h.given x (sub hx)) number
  have same : (s.listen name).channel =
      ({ s.channel with subscribers := s.channel.subscribers.filter fun x =>
        x.2 != .listener name } : Channel Subscriber).subscribe (.listener name) := by
    simp only [Session.listen, foldl_unsubscribe, Channel.subscribe, List.filter_append,
      ended_earlier h.numbers, List.filter_cons, new _ (List.filter_subset_self _), Bool.not_false,
      if_true, List.filter_nil]
  rw [same]
  exact joined

end Attended

/-- Nobody else joins or leaves. -/
theorem Effect.same_channel (wired : Wired s.channel) (inStep : InStep s) (effect : Effect s op s')
    (quiet : ∀ names, op.audience names = names) : s'.channel = s.channel := by
  cases effect with
  | @add _ batch _ _ =>
    exact announceAll_keeps (s := s.appended batch) (P := fun u => u.channel = s.channel) wired
      (inStep.appended batch) (fun _ _ wired _ h => (announce_channel wired.idle).trans h) rfl
  | publish => exact announce_channel wired.idle
  | @listen name => exact absurd (quiet []) (by simp [Operation.audience])
  | @unlisten name => exact absurd (quiet [name]) (by simp [Operation.audience])
  | _ => rfl

/-- Whatever is done with a session, its views stay, and its listeners are those who are to be
there. -/
theorem Attended.operate (h : Attended s.channel names) (inStep : InStep s) (op : Operation ε) :
    Attended (operate op s).channel (op.audience names) := by
  have unchanged (quiet : ∀ names, op.audience names = names) :
      Attended (Session.operate op s).channel (op.audience names) := by
    rw [quiet, (operate_effect s op).same_channel h.wired inStep fun names => by
      rw [audience_plain, quiet]]
    exact h
  cases op with
  | listen name => exact h.listen name
  | unlisten name => exact h.unlisten name
  | _ => exact unchanged fun _ => rfl

theorem attended_run (stackList : List Stack) (ops : List (Operation ε)) :
    Attended ((start stackList).run ops).channel (audience ops) := by
  induction ops using List.reverseRecOn with
  | nil => exact .start stackList
  | append_singleton before op ih =>
    rw [run_concat, audience_concat]
    exact ih.operate (run_inStep stackList before).2 op

/-! ## The end of a session -/

namespace Attended

/-- What is left of the channel is what is left when each view ends its own subscription. -/
theorem finish_eq (h : Attended s.channel names) :
    s.finish = ((s.channel.unsubscribe 0).unsubscribe 1).unsubscribe 2 := by
  obtain ⟨others, split, listeners⟩ := h.wired.views
  have stay : ∀ x ∈ others,
      ((x.2 != .git && x.2 != .zip && x.2 != .selector) : Bool) =
        (x.1 != 2 && (x.1 != 1 && x.1 != 0)) := by
    intro x hx
    obtain ⟨number, name, who⟩ := listeners x hx
    have apart : x.1 ≠ 2 ∧ x.1 ≠ 1 ∧ x.1 ≠ 0 := by omega
    simp [who, bne_iff_ne.2, apart]
  have same : s.channel.subscribers.filter
      (fun x => x.2 != .git && x.2 != .zip && x.2 != .selector) =
        s.channel.subscribers.filter fun x => x.1 != 2 && (x.1 != 1 && x.1 != 0) := by
    rw [split]
    simpa using List.filter_congr stay
  simp only [finish, Channel.unsubscribe, List.filter_filter, same]

/-- The listeners are left, in the order in which they joined. -/
theorem finish_subscribers (h : Attended s.channel names) :
    s.finish.subscribers.map Prod.snd = names.map Subscriber.listener := by
  have commutes : s.finish.subscribers.map Prod.snd = (s.channel.subscribers.map Prod.snd).filter
      fun who => who != .git && who != .zip && who != .selector := by
    rw [List.filter_map]
    rfl
  have listeners : ∀ who ∈ names.map Subscriber.listener,
      (who != .git && who != .zip && who != .selector) = true := by
    intro who hw
    obtain ⟨name, -, rfl⟩ := List.mem_map.1 hw
    simp
  rw [commutes, h.subscribers, List.filter_cons_of_neg (by decide),
    List.filter_cons_of_neg (by decide), List.filter_cons_of_neg (by decide),
    List.filter_eq_self.2 listeners]

theorem size_eq (h : Attended s.channel names) : s.channel.size = 3 + names.length := by
  rw [Channel.size, ← List.length_map (f := Prod.snd), h.subscribers]
  simp only [List.length_cons, List.length_map]
  omega

end Attended

end ProjectPicker.Session
