import Mathlib.Data.List.Nodup
import ProjectPicker.Proofs.Hub

/-!
# The subscriptions that a hub holds

* `Hub.Kept` : a hub holds the subscriptions of all subscribers, each under the listener's name, in
  the order of subscription, and no name twice;
* `Kept.subscribe_eq` : a listener that subscribes again replaces itself, as if the subscription
  that was held under its name had ended first;
* `frame_kept`, `Reached.kept` : listeners come, go and replace one another, also in the middle of a
  publication, and all that keeps it so;
* `registered_live` : the subscribers of a channel are exactly the live subscriptions, and those of
  a hub are exactly the ones that it holds.
-/

set_option autoImplicit false

namespace ProjectPicker.Hub

open Channel (Event Recorded live)

variable {h : Hub} {enclosing : List Nat} {name : String} {id : Nat}

def holding (x : Nat × Listener) : String × Nat := (x.2.name, x.1)

/-- A listener whose name is free subscribes. -/
def enlist (l : Listener) (h : Hub) : Hub :=
  { h with channel := h.channel.subscribe l, held := h.held ++ [(l.name, h.channel.nextId)] }

theorem release_of_held (lookup : h.held.lookup name = some id) :
    (h.release name).2 =
      { h with channel := h.channel.unsubscribe id, held := h.held.filter (·.1 != name) } := by
  rw [release, lookup]

theorem release_of_free (lookup : h.held.lookup name = none) : (h.release name).2 = h := by
  rw [release, lookup]

/-- A name is free once the subscription held under it has ended. -/
theorem free_release (h : Hub) (name : String) : ∀ x ∈ (h.release name).2.held, x.1 ≠ name := by
  intro x hx
  cases lookup : h.held.lookup name with
  | none =>
    rw [release_of_free lookup] at hx
    exact (bne_iff_ne.1 (List.lookup_eq_none_iff.1 lookup x hx)).symm
  | some id =>
    rw [release_of_held lookup] at hx
    exact bne_iff_ne.1 (List.mem_filter.1 hx).2

/-- The subscriptions of all subscribers are held under their names, and no name is there twice. -/
structure Kept (h : Hub) : Prop where
  recorded : ∃ history, Recorded history h.channel
  held : h.held = h.channel.subscribers.map holding
  names : (h.held.map Prod.fst).Nodup

namespace Kept

theorem empty : Kept {} := ⟨⟨[], .empty⟩, rfl, List.nodup_nil⟩

theorem mem_held (k : Kept h) {x : Nat × Listener} (hx : x ∈ h.channel.subscribers) :
    holding x ∈ h.held :=
  k.held ▸ List.mem_map_of_mem hx

/-- Whoever is held under a name is subscribed. -/
theorem subscribed (k : Kept h) (lookup : h.held.lookup name = some id) :
    ∃ l, (id, l) ∈ h.channel.subscribers ∧ l.name = name := by
  obtain ⟨before, after, split, -⟩ := List.lookup_eq_some_iff.1 lookup
  have there : (name, id) ∈ h.held := split ▸ List.mem_append_cons_self
  rw [k.held] at there
  obtain ⟨⟨_, l⟩, hl, same⟩ := List.mem_map.1 there
  obtain ⟨rfl, rfl⟩ := Prod.mk.inj same
  exact ⟨l, hl, rfl⟩

/-- The subscription held under a name is told by its number. -/
theorem name_iff (k : Kept h) (lookup : h.held.lookup name = some id) {x : Nat × Listener}
    (hx : x ∈ h.channel.subscribers) : x.2.name = name ↔ x.1 = id := by
  obtain ⟨history, recorded⟩ := k.recorded
  obtain ⟨l, hl, rfl⟩ := k.subscribed lookup
  constructor
  · intro same
    exact congrArg Prod.snd (List.inj_on_of_nodup_map k.names (k.mem_held hx) (k.mem_held hl) same)
  · intro same
    have distinct : (h.channel.subscribers.map Prod.fst).Nodup :=
      (List.pairwise_map.2 recorded.increasing).imp Nat.ne_of_lt
    rw [List.inj_on_of_nodup_map distinct hx hl same]

theorem others (k : Kept h) (lookup : h.held.lookup name = some id) :
    h.held.filter (·.1 != name) = (h.channel.unsubscribe id).subscribers.map holding := by
  rw [k.held, List.filter_map, Channel.unsubscribe]
  refine congrArg (List.map holding) (List.filter_congr fun x hx => ?_)
  have same : x.2.name = name ↔ x.1 = id := k.name_iff lookup hx
  simp only [Function.comp_apply, holding, bne, beq_eq_decide, same]

theorem release (k : Kept h) (name : String) : Kept (h.release name).2 := by
  obtain ⟨history, recorded⟩ := k.recorded
  cases lookup : h.held.lookup name with
  | none =>
    rw [release_of_free lookup]
    exact k
  | some id =>
    rw [release_of_held lookup]
    exact ⟨⟨_, recorded.unsubscribe id⟩, k.others lookup,
      k.names.sublist (List.filter_sublist.map _)⟩

theorem enlist (k : Kept h) {l : Listener} (free : ∀ x ∈ h.held, x.1 ≠ l.name) :
    Kept (h.enlist l) := by
  obtain ⟨history, recorded⟩ := k.recorded
  refine ⟨⟨_, recorded.subscribe l⟩, ?_, ?_⟩
  · simp only [Hub.enlist, Channel.subscribe, List.map_append, k.held]
    rfl
  · have new : l.name ∉ h.held.map Prod.fst := fun there => by
      obtain ⟨x, hx, same⟩ := List.mem_map.1 there
      exact free x hx same
    simp only [Hub.enlist, List.map_append]
    exact List.nodup_append.2 ⟨k.names, List.nodup_singleton _, fun a ha b hb same =>
      new (by rwa [same, List.mem_singleton.1 hb] at ha)⟩

/-- Whether the former subscription ends before or after the new one is made comes to the same: the
new one has another number. -/
theorem subscribe_eq (k : Kept h) (l : Listener) :
    (h.subscribe l).2 = (h.release l.name).2.enlist l := by
  obtain ⟨history, recorded⟩ := k.recorded
  let made : Hub := slot.modify (·.subscribe l) h
  change { (made.release l.name).2 with
    held := (made.release l.name).2.held ++ [(l.name, h.channel.nextId)] } = _
  cases lookup : h.held.lookup l.name with
  | none =>
    rw [release_of_free lookup, release_of_free (h := made) lookup]
    rfl
  | some id =>
    obtain ⟨l', hl, -⟩ := k.subscribed lookup
    have other : h.channel.nextId ≠ id := Nat.ne_of_gt (recorded.below hl)
    have apart : made.channel.unsubscribe id = (h.channel.unsubscribe id).subscribe l :=
      Channel.unsubscribe_subscribe other
    rw [release_of_held lookup, release_of_held (h := made) lookup, apart]
    rfl

theorem subscribe (k : Kept h) (l : Listener) : Kept (h.subscribe l).2 := by
  rw [k.subscribe_eq l]
  exact (k.release l.name).enlist (free_release h l.name)

/-- Only the channel's subscribers and their numbers matter. -/
theorem congr {h' : Hub} (k : Kept h) (next : h'.channel.nextId = h.channel.nextId)
    (subscribers : h'.channel.subscribers = h.channel.subscribers) (held : h'.held = h.held) :
    Kept h' := by
  obtain ⟨history, recorded⟩ := k.recorded
  refine ⟨⟨history, ⟨?_, ?_⟩⟩, ?_, ?_⟩
  · rw [next]
    exact recorded.numbers
  · rw [subscribers]
    exact recorded.subscribers
  · rw [held, subscribers]
    exact k.held
  · rw [held]
    exact k.names

end Kept

/-- Whatever is done to a hub, the subscriptions of all subscribers remain held. -/
theorem frame_kept : Frame fun h h' => Kept h → Kept h' where
  elsewhere channel held k := k.congr (by rw [channel]) (by rw [channel]) held
  trans _ _ _ first andThen k := andThen (first k)
  subscribe _ l k := k.subscribe l
  release _ name k := k.release name
  serve _ _ _ meanwhile k := (meanwhile (k.congr rfl rfl rfl)).congr rfl rfl rfl

theorem Reached.kept (reached : Reached enclosing h) : Kept h := by
  induction reached with
  | start => exact .empty
  | take _ taken ih => exact frame_kept.take taken ih
  | within _ _ serving taking ih =>
    have write : ∀ entry u, Kept u → Kept (record entry u) := fun _ _ k => k.congr rfl rfl rfl
    have served : Kept _ := serving.keeps (fun _ _ k => k.congr rfl rfl rfl)
      (fun _ _ k => k.congr rfl rfl rfl)
      (fun _ _ _ _ heard => frame_kept.hear (fun _ _ _ _ => frame_kept.reactions) heard) ih
    exact taking.keeps write (fun _ _ _ _ => frame_kept.reactions) (write _ _ served)

/-! ## The live subscriptions -/

/-- What a hub holds are the live subscriptions of a history, under different names. Whichever of
them ends, the others remain, in the same order, and it cannot end again. -/
structure HoldsLive (history : List (Event Listener)) (h : Hub) : Prop where
  held : h.held = (live history).map holding
  names : (h.held.map Prod.fst).Nodup
  count : h.count? = if h.isOpen then some (live history).length else none
  ends : ∀ name id, h.held.lookup name = some id → ∃ before l after,
    live history = before ++ (id, l) :: after ∧ l.name = name ∧
      (h.release name).2.channel.subscribers = before ++ after ∧
      (h.release name).2.held = (before ++ after).map holding
  ended : ∀ name, h.held.lookup name = none → (h.release name).2 = h
  once : ∀ name, (h.release name).2.held.lookup name = none

theorem Kept.holdsLive {history : List (Event Listener)} (k : Kept h)
    (recorded : Recorded history h.channel) : HoldsLive history h where
  held := recorded.subscribers ▸ k.held
  names := k.names
  count := recorded.subscribers ▸ rfl
  ends name id lookup := by
    obtain ⟨l, hl, named⟩ := k.subscribed lookup
    obtain ⟨before, after, split⟩ := List.append_of_mem hl
    have left : (h.channel.unsubscribe id).subscribers = before ++ after :=
      Channel.subscribers_unsubscribe recorded.increasing split
    refine ⟨before, l, after, recorded.subscribers ▸ split, named, ?_, ?_⟩
    · rw [release_of_held lookup, left]
    · rw [release_of_held lookup, k.others lookup, left]
  ended name := release_of_free
  once name := List.lookup_eq_none_iff.2 fun x hx => bne_iff_ne.2 (free_release h name x hx).symm

/-- In whatever state code runs that uses a channel, the subscribers are exactly the subscriptions
that were made and not ended, under numbers that increase in the order in which they were made and
are given once, and so it is after each publication. In whatever state a hub is reached, also while
a listener takes its steps, those subscriptions are exactly the ones held. -/
theorem registered_live :
    (∀ {σ η : Type} (slot : Slot σ η) history enclosing s, slot.Reached history enclosing s →
      Recorded history (slot.get s) ∧ (slot.get s).Registers (live history) ∧
        ∀ serve n s', slot.Behaved serve → slot.publish serve s = some (n, s') →
          ∃ events, slot.Reached (history ++ events) enclosing s' ∧
            (slot.get s').Registers (live (history ++ events))) ∧
    ∀ enclosing h, Reached enclosing h →
      ∃ history, slot.Reached history enclosing h ∧ HoldsLive history h := by
  refine ⟨fun slot history enclosing s reached => ?_, fun enclosing h reached => ?_⟩
  · refine ⟨reached.recorded, reached.recorded.registers, fun serve n s' behaved published => ?_⟩
    obtain ⟨events, used⟩ := behaved.leads_publish published
    exact ⟨events, reached.uses used, (reached.uses used).recorded.registers⟩
  · obtain ⟨history, code⟩ := reached.code
    exact ⟨history, code, reached.kept.holdsLive code.recorded⟩

/-- A listener that ends a subscription, makes another, and replaces its own. -/
def switching : Listener :=
  ⟨"a", [("x", [.act (.unsubscribe "b"), .subscribe () "c" [], .subscribe () "a" []])]⟩

/-- The listener `a` hears `x`. It has ended the subscription of `b`, whose turn is next, and has
let `c` subscribe. It is about to subscribe anew. -/
def replacing : Hub where
  channel := { nextId := 3, subscribers := [(0, switching), (2, ⟨"c", []⟩)], running := [0] }
  held := [("a", 0), ("c", 2)]
  log := [.heard "a" "x", .did "a" (.act (.unsubscribe "b")) (.flag true),
    .did "a" (.subscribe () "c" []) (.flag false)]

theorem reached_replacing : Reached [0] replacing := by
  have first : Reached [] (({} : Hub).subscribe switching).2 :=
    @Reached.take _ 0 (.subscribe () "a" switching.on) _ _ _ .start rfl
  have second : Reached [] ((({} : Hub).subscribe switching).2.subscribe ⟨"b", []⟩).2 :=
    @Reached.take _ 0 (.subscribe () "b" []) _ _ _ first rfl
  exact @Reached.within _ 1 _ "x" _ _ _ _ _ second rfl (.now rfl) (.taken rfl (.taken rfl .now))

theorem registered_live_replacing :
    (∃ history, slot.Reached history [0] replacing ∧ HoldsLive history replacing ∧
      replacing.channel.Registers (live history) ∧
      ∃ v', slot.publish (hears (reactions 0) "y") replacing = some (1, v') ∧
        ∃ events, v'.channel.Registers (live (history ++ events))) ∧
    ∃ v' history, take 0 (.subscribe () "a" []) replacing = some (.flag true, v') ∧
      v'.held = [("c", 2), ("a", 3)] ∧ HoldsLive history v' := by
  have replaced : Reached [0] (replacing.subscribe ⟨"a", []⟩).2 :=
    @Reached.take _ 0 (.subscribe () "a" []) _ _ _ reached_replacing rfl
  obtain ⟨always, holds⟩ := registered_live
  obtain ⟨history, code, held⟩ := holds _ _ reached_replacing
  obtain ⟨-, registers, published⟩ := always slot _ _ _ code
  obtain ⟨events, -, registers'⟩ := published _ _ _ (behaved_hears 0 "y") rfl
  obtain ⟨later, -, held'⟩ := holds _ _ replaced
  exact ⟨⟨history, code, held, registers, _, rfl, events, registers'⟩, _, later, rfl, rfl, held'⟩

end ProjectPicker.Hub
