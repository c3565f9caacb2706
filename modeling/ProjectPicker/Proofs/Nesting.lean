import ProjectPicker.Proofs.Delivery

/-!
# Publications within publications

* `Course` : what a subscriber does that subscribes nobody: it publishes, ends subscriptions and
  sees to its own affairs, one after the other, and each may depend on what came before;
* `publishWithin` : publishes to subscribers who react by such courses, where publications are
  nested to a given number of levels at most;
* `Nested` : in the course of one publication another one begins, while certain subscribers are
  being served for it;
* `publishWithin_mono` : a publication that returns does so in the same way if more levels are
  allowed;
* `Thins` : whoever was being served is served still, and nobody has subscribed. All of the above
  does no more (`thins_publishWithin`, `Nested.confined`);
* `waiting_enter_lt` : whoever begins to be served is one less to wait for;
* `Confined.deliver_returns`, `Confined.publishWithin_returns` : so a publication returns if it may
  be nested once more than there are subscribers who wait.
-/

set_option autoImplicit false

namespace ProjectPicker.Slot

variable {σ η π : Type} {slot : Slot σ η}

/-! ## What subscribers do -/

/-- What a subscriber does that subscribes nobody: one thing after the other, where each may depend
on the state, and on how many were served by a publication before. -/
inductive Course (slot : Slot σ η) (π : Type) where
  | done
  | look (next : σ → Course slot π)
  | write (change : σ → σ) (elsewhere : ∀ s, slot.get (change s) = slot.get s)
      (next : Course slot π)
  | unsubscribe (id : Nat) (next : Course slot π)
  | publish (payload : π) (next : Nat → Course slot π)

namespace Course

def run (publish : π → σ → Option (Nat × σ)) : Course slot π → σ → Option σ
  | .done, s => some s
  | .look next, s => (next s).run publish s
  | .write change _ next, s => next.run publish (change s)
  | .unsubscribe id next, s => next.run publish (slot.modify (·.unsubscribe id) s)
  | .publish payload next, s => (publish payload s).bind fun r => (next r.1).run publish r.2

/-- A course that is run from `s` on comes to publish `payload` in the state `v`. -/
inductive Publishes (publish : π → σ → Option (Nat × σ)) :
    Course slot π → σ → π → σ → Prop
  | now {payload : π} {next : Nat → Course slot π} {s : σ} :
      Publishes publish (.publish payload next) s payload s
  | published {earlier payload : π} {next : Nat → Course slot π} {n : Nat} {s t v : σ}
      (done : publish earlier s = some (n, t)) (later : Publishes publish (next n) t payload v) :
      Publishes publish (.publish earlier next) s payload v
  | looked {next : σ → Course slot π} {payload : π} {s v : σ}
      (later : Publishes publish (next s) s payload v) :
      Publishes publish (.look next) s payload v
  | written {change : σ → σ} {elsewhere : ∀ s, slot.get (change s) = slot.get s}
      {next : Course slot π} {payload : π} {s v : σ}
      (later : Publishes publish next (change s) payload v) :
      Publishes publish (.write change elsewhere next) s payload v
  | unsubscribed {id : Nat} {next : Course slot π} {payload : π} {s v : σ}
      (later : Publishes publish next (slot.modify (·.unsubscribe id) s) payload v) :
      Publishes publish (.unsubscribe id next) s payload v

end Course

/-- Publishes to subscribers who react by courses. Publications are nested to `levels` levels at
most, this one included; `none` means that there would be more. -/
def publishWithin (slot : Slot σ η) (react : Nat → η → π → Course slot π) :
    Nat → π → σ → Option (Nat × σ)
  | 0, _ => fun _ => none
  | levels + 1, payload =>
    slot.publish fun id x => (react id x payload).run (publishWithin slot react levels)

/-- While `payload` is published from the state `s` on, a publication of another payload begins in
another state. It takes place while the subscribers of these numbers are being served for it, the
innermost first, each of which was served by a publication of the one before. -/
inductive Nested (slot : Slot σ η) (react : Nat → η → π → Course slot π) (payload : π) (s : σ) :
    List Nat → π → σ → Prop
  | outermost : Nested slot react payload s [] payload s
  | within {enclosing : List Nat} {outer inner : π} {levels : Nat} {v u w : σ} {who : Nat × η}
      (around : Nested slot react payload s enclosing outer v)
      (serving : slot.Serving
        (fun id x => (react id x outer).run (publishWithin slot react levels))
        (slot.get v).subscribers v who u)
      (publishes :
        (react who.1 who.2 outer).Publishes (publishWithin slot react levels) u inner w) :
      Nested slot react payload s (who.1 :: enclosing) inner w

/-! ## More levels make no difference -/

section Mono

variable {queue : List (Nat × η)} {s s' : σ} {n levels more : Nat} {payload : π}
  {publish publish' : π → σ → Option (Nat × σ)} {course : Course slot π}
  {serve serve' : Nat → η → σ → Option σ} {react : Nat → η → π → Course slot π}

theorem Course.run_mono
    (each : ∀ payload s r, publish payload s = some r → publish' payload s = some r)
    (h : course.run publish s = some s') : course.run publish' s = some s' := by
  induction course generalizing s with
  | done => exact h
  | look next ih => exact ih _ h
  | write change elsewhere next ih => exact ih h
  | unsubscribe id next ih => exact ih h
  | publish payload next ih =>
    obtain ⟨r, published, h⟩ := Option.bind_eq_some_iff.1 h
    exact Option.bind_eq_some_iff.2 ⟨r, each _ _ _ published, ih _ h⟩

theorem deliver_mono
    (each : ∀ id x s s', serve id x s = some s' → serve' id x s = some s')
    (h : slot.deliver serve queue s = some (n, s')) :
    slot.deliver serve' queue s = some (n, s') := by
  induction queue generalizing s n with
  | nil => exact h
  | cons who rest ih =>
    obtain ⟨id, x⟩ := who
    obtain ⟨running, later⟩ | ⟨idle, t, k, served, later, rfl⟩ := deliver_cons_eq_some h
    · exact (deliver_of_running running).trans (ih later)
    · exact deliver_of_idle (by simpa using idle) (each _ _ _ _ served) (ih later)

theorem publishWithin_succ (h : publishWithin slot react levels payload s = some (n, s')) :
    publishWithin slot react (levels + 1) payload s = some (n, s') := by
  induction levels generalizing payload s n s' with
  | zero => cases h
  | succ levels ih =>
    exact deliver_mono (fun _ _ _ _ => Course.run_mono fun _ _ _ => ih) h

theorem publishWithin_mono (le : levels ≤ more)
    (h : publishWithin slot react levels payload s = some (n, s')) :
    publishWithin slot react more payload s = some (n, s') := by
  induction le with
  | refl => exact h
  | step _ ih => exact publishWithin_succ ih

end Mono

/-! ## Nobody subscribes -/

section Thinning

variable {s t s' v : σ} {id n : Nat} {queue : List (Nat × η)} {who : Nat × η}
  {publish : π → σ → Option (Nat × σ)} {course : Course slot π} {payload : π}
  {react : Nat → η → π → Course slot π}

/-- The same subscribers are being served, and nobody has subscribed. -/
structure Thins (slot : Slot σ η) (s s' : σ) : Prop where
  running : (slot.get s').running = (slot.get s).running
  subscribers : (slot.get s').subscribers ⊆ (slot.get s).subscribers

namespace Thins

theorem refl (slot : Slot σ η) (s : σ) : slot.Thins s s := ⟨rfl, fun _ h => h⟩

theorem trans (h : slot.Thins s t) (h' : slot.Thins t s') : slot.Thins s s' :=
  ⟨h'.running.trans h.running, fun _ hx => h.subscribers (h'.subscribers hx)⟩

theorem elsewhere (same : slot.get s' = slot.get s) : slot.Thins s s' := by
  refine ⟨?_, ?_⟩ <;> rw [same]
  exact fun _ h => h

theorem unsubscribe (slot : Slot σ η) (id : Nat) (s : σ) :
    slot.Thins s (slot.modify (·.unsubscribe id) s) := by
  refine ⟨?_, ?_⟩ <;> rw [get_modify, Channel.unsubscribe]
  exact List.filter_subset_self _

theorem served (meanwhile : slot.Thins (slot.modify (·.enter id) s) t) :
    slot.Thins s (slot.modify (·.leave id) t) := by
  have running := meanwhile.running
  have subscribers := meanwhile.subscribers
  rw [get_modify] at running subscribers
  refine ⟨?_, ?_⟩ <;> rw [get_modify, Channel.leave]
  · rw [running, Channel.enter]
    exact List.erase_cons_head ..
  · exact subscribers

theorem enter (h : slot.Thins s s') (id : Nat) :
    slot.Thins (slot.modify (·.enter id) s) (slot.modify (·.enter id) s') := by
  refine ⟨?_, ?_⟩ <;> rw [get_modify, get_modify, Channel.enter, Channel.enter]
  · rw [h.running]
  · exact h.subscribers

end Thins

theorem Course.thins_run (each : ∀ payload s n s', publish payload s = some (n, s') →
    slot.Thins s s') (h : course.run publish s = some s') : slot.Thins s s' := by
  induction course generalizing s with
  | done =>
    cases h
    exact .refl slot _
  | look next ih => exact ih _ h
  | write change elsewhere next ih => exact (Thins.elsewhere (elsewhere _)).trans (ih h)
  | unsubscribe id next ih => exact (Thins.unsubscribe slot id _).trans (ih h)
  | publish payload next ih =>
    obtain ⟨⟨n, t⟩, published, h⟩ := Option.bind_eq_some_iff.1 h
    exact (each _ _ _ _ published).trans (ih n h)

theorem Course.Publishes.thins (each : ∀ payload s n s', publish payload s = some (n, s') →
    slot.Thins s s') (h : course.Publishes publish s payload v) : slot.Thins s v := by
  induction h with
  | now => exact .refl slot _
  | published done _ ih => exact (each _ _ _ _ done).trans ih
  | looked _ ih => exact ih
  | @written _ elsewhere _ _ s _ _ ih => exact (Thins.elsewhere (elsewhere s)).trans ih
  | unsubscribed _ ih => exact (Thins.unsubscribe slot _ _).trans ih

theorem thins_publishWithin {levels : Nat}
    (h : publishWithin slot react levels payload s = some (n, s')) : slot.Thins s s' := by
  induction levels generalizing payload s n s' with
  | zero => cases h
  | succ levels ih =>
    exact relates_deliver (Thins.refl slot) (fun _ _ _ => Thins.trans)
      (fun _ _ _ _ _ served => (Course.thins_run (fun _ _ _ _ => ih) served).served) h

/-- Whoever begins to be served is in the queue, and was not being served already. -/
theorem Serving.thins {serve : Nat → η → σ → Option σ}
    (each : ∀ id x s s', serve id x s = some s' → slot.Thins s s')
    (h : slot.Serving serve queue s who v) :
    who ∈ queue ∧ who.1 ∉ (slot.get s).running ∧ slot.Thins (slot.modify (·.enter who.1) s) v := by
  induction h with
  | now idle => exact ⟨List.mem_cons_self, by simpa using idle, .refl slot _⟩
  | passed _ _ ih => exact ⟨List.mem_cons_of_mem _ ih.1, ih.2⟩
  | @served id x rest s t who v _ done _ ih =>
    obtain ⟨queued, idle, meanwhile⟩ := ih
    have turn : slot.Thins s (slot.modify (·.leave id) t) := (each _ _ _ _ done).served
    rw [turn.running] at idle
    exact ⟨List.mem_cons_of_mem _ queued, idle, (turn.enter who.1).trans meanwhile⟩

end Thinning

/-! ## Fewer and fewer wait -/

variable {subscribers queue : List (Nat × η)} {enclosing : List Nat} {s s' v : σ} {payload : π}
  {react : Nat → η → π → Course slot π}

theorem waiting_nil (queue : List (Nat × η)) : waiting [] queue = queue :=
  List.filter_eq_self.2 fun _ _ => rfl

/-- Whoever begins to be served is one less to wait for. -/
theorem waiting_enter_lt {who : Nat × η} (queued : who ∈ queue) (idle : who.1 ∉ enclosing) :
    (waiting (who.1 :: enclosing) queue).length < (waiting enclosing queue).length := by
  have split : waiting (who.1 :: enclosing) queue =
      (waiting enclosing queue).filter fun x => x.1 != who.1 := by
    rw [waiting, waiting, List.filter_filter]
    refine List.filter_congr fun x _ => ?_
    rw [List.contains_cons, Bool.not_or]
    rfl
  rw [split, List.length_filter_lt_length_iff_exists]
  exact ⟨who, List.mem_filter.2 ⟨queued, by simpa using idle⟩, by simp⟩

/-- These are being served, and whoever is subscribed is among `subscribers`. -/
structure Confined (slot : Slot σ η) (subscribers : List (Nat × η)) (enclosing : List Nat)
    (s : σ) : Prop where
  running : (slot.get s).running = enclosing
  subscribed : (slot.get s).subscribers ⊆ subscribers

namespace Confined

theorem thins (h : slot.Confined subscribers enclosing s) (thins : slot.Thins s s') :
    slot.Confined subscribers enclosing s' :=
  ⟨thins.running.trans h.running, fun _ hx => h.subscribed (thins.subscribers hx)⟩

theorem enter (h : slot.Confined subscribers enclosing s) (id : Nat) :
    slot.Confined subscribers (id :: enclosing) (slot.modify (·.enter id) s) := by
  refine ⟨?_, ?_⟩ <;> rw [get_modify, Channel.enter]
  · rw [h.running]
  · exact h.subscribed

theorem deliver_returns {serve : Nat → η → σ → Option σ}
    (h : slot.Confined subscribers enclosing s)
    (turn : ∀ id x t, (id, x) ∈ queue → id ∉ enclosing →
      slot.Confined subscribers (id :: enclosing) t →
        ∃ t', serve id x t = some t' ∧ slot.Thins t t') :
    ∃ n s', slot.deliver serve queue s = some (n, s') ∧ slot.Thins s s' := by
  induction queue generalizing s with
  | nil => exact ⟨0, s, rfl, .refl slot s⟩
  | cons who rest ih =>
    obtain ⟨id, x⟩ := who
    have later := fun id x t hm => turn id x t (List.mem_cons_of_mem _ hm)
    by_cases running : (slot.get s).running.contains id = true
    · obtain ⟨n, s', delivered, thins⟩ := ih h later
      exact ⟨n, s', (deliver_of_running running).trans delivered, thins⟩
    · have idle : id ∉ enclosing := by
        rw [h.running] at running
        simpa using running
      obtain ⟨t, served, meanwhile⟩ := turn id x _ List.mem_cons_self idle (h.enter id)
      obtain ⟨n, s', delivered, thins⟩ := ih (h.thins meanwhile.served) later
      exact ⟨n + 1, s', deliver_of_idle running served delivered, meanwhile.served.trans thins⟩

theorem run_returns {publish : π → σ → Option (Nat × σ)}
    (h : slot.Confined subscribers enclosing s)
    (each : ∀ payload t, slot.Confined subscribers enclosing t →
      ∃ n t', publish payload t = some (n, t') ∧ slot.Thins t t') (course : Course slot π) :
    ∃ s', course.run publish s = some s' ∧ slot.Thins s s' := by
  induction course generalizing s with
  | done => exact ⟨s, rfl, .refl slot s⟩
  | look next ih => exact ih s h
  | write change elsewhere next ih =>
    have changed : slot.Thins s (change s) := .elsewhere (elsewhere s)
    obtain ⟨s', ran, thins⟩ := ih (h.thins changed)
    exact ⟨s', ran, changed.trans thins⟩
  | unsubscribe id next ih =>
    have ended := Thins.unsubscribe slot id s
    obtain ⟨s', ran, thins⟩ := ih (h.thins ended)
    exact ⟨s', ran, ended.trans thins⟩
  | publish payload next ih =>
    obtain ⟨n, t, published, first⟩ := each payload s h
    obtain ⟨s', ran, thins⟩ := ih n (h.thins first)
    exact ⟨s', Option.bind_eq_some_iff.2 ⟨(n, t), published, ran⟩, first.trans thins⟩

/-- A publication returns if it may be nested once more than there are subscribers who wait. Each
nested one has one less to wait for, as nobody subscribes. -/
theorem publishWithin_returns {levels : Nat} (h : slot.Confined subscribers enclosing s)
    (enough : (waiting enclosing subscribers).length < levels) (payload : π) :
    ∃ n s', publishWithin slot react levels payload s = some (n, s') ∧ slot.Thins s s' := by
  induction levels generalizing enclosing payload s with
  | zero => exact absurd enough (Nat.not_lt_zero _)
  | succ levels ih =>
    refine h.deliver_returns fun id x t queued idle within => ?_
    have fewer := waiting_enter_lt (h.subscribed queued) idle
    exact within.run_returns (fun payload u hu => ih hu (by dsimp only at fewer; omega) payload) _

end Confined

/-! ## Every publication returns -/

/-- In the course of a publication nobody subscribes, and each publication within it has less to
wait for than the one around it. -/
theorem Nested.confined {inner : π} (h : Nested slot react payload s enclosing inner v)
    (idle : (slot.get s).running = []) :
    slot.Confined (slot.get s).subscribers enclosing v ∧
      enclosing.length + (waiting enclosing (slot.get s).subscribers).length ≤
        (slot.get s).size := by
  induction h with
  | outermost => exact ⟨⟨idle, fun _ hx => hx⟩, by simp [waiting_nil, Channel.size]⟩
  | @within enclosing outer inner levels v u w who _ serving publishes ih =>
    obtain ⟨around, few⟩ := ih
    have each : ∀ payload s n s', publishWithin slot react levels payload s = some (n, s') →
        slot.Thins s s' := fun _ _ _ _ => thins_publishWithin
    obtain ⟨queued, idle, meanwhile⟩ := serving.thins fun _ _ _ _ => Course.thins_run each
    rw [around.running] at idle
    have fewer := waiting_enter_lt (around.subscribed queued) idle
    refine ⟨((around.enter who.1).thins meanwhile).thins (publishes.thins each), ?_⟩
    rw [List.length_cons]
    omega

/-- Nobody is served who is being served already. -/
theorem Nested.apart {inner : π} {levels : Nat} {who : Nat × η} {u : σ}
    (h : Nested slot react payload s enclosing inner v) (idle : (slot.get s).running = [])
    (serving : slot.Serving (fun id x => (react id x inner).run (publishWithin slot react levels))
      (slot.get v).subscribers v who u) : who.1 ∉ enclosing := by
  rw [← (h.confined idle).1.running]
  exact (serving.thins fun _ _ _ _ => Course.thins_run fun _ _ _ _ => thins_publishWithin).2.1

theorem Nested.nodup {inner : π} (h : Nested slot react payload s enclosing inner v)
    (idle : (slot.get s).running = []) : enclosing.Nodup := by
  induction h with
  | outermost => exact List.nodup_nil
  | within around serving _ ih => exact List.nodup_cons.2 ⟨around.apart idle serving, ih⟩

/-- Wherever code runs, nobody is served within being served. -/
theorem Reached.nodup {history : List (Channel.Event η)}
    (reached : slot.Reached history enclosing s) : enclosing.Nodup := by
  induction reached with
  | start => exact List.nodup_nil
  | uses _ _ ih => exact ih
  | served _ idle ih => exact List.nodup_cons.2 ⟨idle, ih⟩

/-- What is true of the publication of `payload` from the state `s` on, and of those within it, if
there are `size` subscribers: each returns, they are nested once more than that at most, and nobody
is served within being served. -/
structure Ends (slot : Slot σ η) (react : Nat → η → π → Course slot π) (payload : π) (s : σ)
    (size : Nat) : Prop where
  returns : ∀ enclosing inner v, Nested slot react payload s enclosing inner v →
    ∃ n v', ∀ levels, size + 1 ≤ enclosing.length + levels →
      publishWithin slot react levels inner v = some (n, v')
  nested : ∀ enclosing inner v, Nested slot react payload s enclosing inner v →
    enclosing.length + 1 ≤ size + 1
  alone : ∀ enclosing inner v levels who u, Nested slot react payload s enclosing inner v →
    slot.Serving (fun id x => (react id x inner).run (publishWithin slot react levels))
      (slot.get v).subscribers v who u → (who.1 :: enclosing).Nodup

/-- If nobody is being served, publications end. -/
theorem ends_of_idle (react : Nat → η → π → Course slot π) (payload : π)
    (idle : (slot.get s).running = []) : slot.Ends react payload s (slot.get s).size where
  returns enclosing inner v h := by
    obtain ⟨around, few⟩ := h.confined idle
    obtain ⟨n, v', returned, -⟩ := around.publishWithin_returns (Nat.lt_succ_self _) inner
    exact ⟨n, v', fun levels enough => publishWithin_mono (by omega) returned⟩
  nested enclosing inner v h := Nat.succ_le_succ (Nat.le_of_add_right_le (h.confined idle).2)
  alone _ _ _ _ _ _ h serving := List.nodup_cons.2 ⟨h.apart idle serving, h.nodup idle⟩

end ProjectPicker.Slot
