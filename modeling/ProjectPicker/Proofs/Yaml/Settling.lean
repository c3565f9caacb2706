import ProjectPicker.Proofs.Yaml.Taking

/-!
# Which tokens are handed out

* `fetch_dropStale` : places for which it is too late may be given up before a token is found;
* `Finds` : the tokens that are found from here on, all of them or not the last;
* `Offers` : the tokens that are handed out from here on;
* `Finds.offers` : what is found is handed out.
-/

set_option autoImplicit false

namespace ProjectPicker.Yaml.TokenStream

variable {s s' : TokenStream} {first t : Token}

/-! ## Places for which it is too late -/

theorem isStale_onward {c c' : Cursor} (onward : c.Onward c') {k : KeyPlace}
    (stale : isStale c k = true) : isStale c' k = true := by
  have index := onward.index
  have line := onward.line
  unfold isStale at stale ⊢
  simp only [Bool.and_eq_true, Bool.or_eq_true, decide_eq_true_eq] at stale ⊢
  exact ⟨stale.1, stale.2.imp (by omega) (by omega)⟩

theorem freshen_freshen {c c' : Cursor} (onward : c.Onward c') (k : KeyPlace) :
    freshen c' (freshen c k) = freshen c' k := by
  by_cases stale : isStale c k = true
  · have later := isStale_onward onward stale
    have gone : isStale c' { k with isPossible := false } = false := rfl
    simp [freshen, stale, later, gone]
  · simp [freshen, stale]

theorem isStale_freshen {c c' : Cursor} (k : KeyPlace) :
    isStale c' (freshen c k) = (isStale c' k && !isStale c k) := by
  by_cases stale : isStale c k = true
  · have gone : isStale c' { k with isPossible := false } = false := rfl
    simp [freshen, stale, gone]
  · simp [freshen, stale]

theorem isRequired_freshen {c : Cursor} (k : KeyPlace) :
    (freshen c k).isRequired = k.isRequired := by
  unfold freshen
  split <;> rfl

/-- What is given up early would be given up later. -/
theorem dropStale_onward (h : s.dropStale = some s') {u : TokenStream}
    (places : u.places = s.places)
    (onward : s.cursor.Onward u.cursor) :
    ({ u with places := s'.places } : TokenStream).dropStale = u.dropStale := by
  rw [dropStale_eq] at h
  split at h
  · cases h
  · rename_i none_required
    obtain rfl := Option.some.inj h
    simp only [List.any_eq_true, not_exists, not_and, Bool.not_eq_true, Bool.and_eq_false_iff]
      at none_required
    have required : ((s.places.map (freshen s.cursor)).any fun k =>
        isStale u.cursor k && k.isRequired) = s.places.any fun k =>
          isStale u.cursor k && k.isRequired := by
      rw [List.any_map, Bool.eq_iff_iff, List.any_eq_true, List.any_eq_true]
      refine exists_congr fun k => and_congr_right fun member => ?_
      simp only [Function.comp, isStale_freshen, isRequired_freshen]
      rcases none_required k member with fresh | optional
      · simp [fresh]
      · simp [optional]
    rw [dropStale_eq, dropStale_eq, places, List.map_map]
    simp only [required, Function.comp_def, freshen_freshen onward]

/-- Places for which it is too late may be given up before a token is found. -/
theorem fetch_dropStale (started : s.isStarted = true) (h : s.dropStale = some s') :
    s'.fetch = s.fetch := by
  have same : s' = { s with places := s'.places } := by rw [eq_of_dropStale h]
  have length : s'.places.length = s.places.length := by rw [eq_of_dropStale h, List.length_map]
  have past : s'.pastBlanks = { s.pastBlanks with places := s'.places } := by
    rw [pastBlanks_congr (u := s) (v := s') (by rw [same]) (by rw [same])
      (by unfold inFlow; rw [length]), pastBlanks_congr (u := s) (v := s) rfl rfl rfl, same]
  rw [fetch_started started, fetch_started (s := s') (by rw [same]; exact started), past]
  have places : s.pastBlanks.places = s.places := by
    rw [pastBlanks_congr (u := s) (v := s) rfl rfl rfl]
  rw [dropStale_onward h places (onward_pastBlanks s)]

/-- A token can only be found where no key is missed. -/
theorem dropStale_of_fetch (started : s.isStarted = true) (h : s.fetch = some s') :
    ∃ s', s.dropStale = some s' := by
  rw [dropStale_eq]
  split
  · rename_i missed
    obtain ⟨k, member, missed⟩ := List.any_eq_true.1 missed
    obtain ⟨stale, required⟩ := Bool.and_eq_true_iff.1 missed
    have later : s.pastBlanks.dropStale = none := by
      rw [dropStale_eq, if_pos]
      refine List.any_eq_true.2 ⟨k, ?_, ?_⟩
      · rw [pastBlanks_congr (u := s) (v := s) rfl rfl rfl]
        exact member
      · rw [isStale_onward (onward_pastBlanks s) stale, required]
        rfl
    rw [fetch_started started, later] at h
    cases h
  · exact ⟨_, rfl⟩

/-! ## The tokens that are found -/

/-- No key may have begun anywhere. -/
def Keyless (s : TokenStream) : Prop := ∀ k ∈ s.places, k.isPossible = false

theorem keyless_freshen (keyless : s.Keyless) :
    Keyless { s with places := s.places.map (freshen s.cursor) } := by
  intro k member
  obtain ⟨k, known, rfl⟩ := List.mem_map.1 member
  unfold freshen
  split
  · rfl
  · exact keyless k known

/-- The tokens that are found from here on: all of them, or not the last. -/
inductive Finds (whole : Bool) : TokenStream → List Token → Prop
  | stuck {s : TokenStream} {tokens : List Token} {missing : Token} : whole = false →
    s.fetch = none → s.queue ++ [missing] <+: tokens → Finds whole s tokens
  | done {s : TokenStream} {tokens : List Token} : whole = true → s.queue = tokens → s.Keyless →
    Finds whole s tokens
  | last {s s' : TokenStream} {tokens : List Token} : whole = true → s.fetch = some s' →
    s'.queue = tokens → s'.Keyless → Finds whole s tokens
  | next {s s' : TokenStream} {tokens : List Token} : s.fetch = some s' →
    s'.cursor.left < s.cursor.left → Finds whole s' tokens → Finds whole s tokens

namespace Finds

variable {whole : Bool} {tokens : List Token}

theorem head (finds : Finds whole s tokens) (ahead : s.Ahead first) :
    ∃ rest, tokens = first :: rest := by
  induction finds with
  | stuck _ _ found =>
    obtain ⟨q, queue⟩ := ahead.exists_queue
    rw [queue] at found
    obtain ⟨rest, rfl⟩ := found
    exact ⟨_, rfl⟩
  | done _ found _ =>
    obtain ⟨q, queue⟩ := ahead.exists_queue
    exact ⟨q, found ▸ queue⟩
  | last _ fetched found _ =>
    obtain ⟨q, queue⟩ := ((commutes_fetch ahead).2 _ fetched).exists_queue
    exact ⟨q, found ▸ queue⟩
  | next fetched _ _ ih => exact ih ((commutes_fetch ahead).2 _ fetched)

/-- The last token is found only if all are. -/
theorem whole_of_nil (finds : Finds whole s tokens) (none_left : tokens = []) : whole = true := by
  induction finds with
  | stuck _ _ found => simp [none_left] at found
  | done complete _ _ => exact complete
  | last complete _ _ _ => exact complete
  | next _ _ _ ih => exact ih none_left

/-- After the next token the others are found. -/
theorem skip {ts : List Token} (finds : Finds whole s ts) (ahead : s.Ahead first)
    (all : ts = first :: tokens) : Finds whole s.skip tokens := by
  induction finds with
  | stuck broken nothing found =>
    subst all
    obtain ⟨q, queue⟩ := ahead.exists_queue
    rw [queue, List.cons_append, List.cons_prefix_cons] at found
    refine .stuck broken ?_ (by rw [TokenStream.skip, queue]; exact found.2)
    rw [(commutes_fetch ahead).1, nothing]
    rfl
  | done complete found keyless =>
    subst all
    exact .done complete (by rw [TokenStream.skip, found]; rfl) keyless
  | last complete fetched found keyless =>
    subst all
    have fetched' := (commutes_fetch ahead).1
    rw [fetched] at fetched'
    exact .last complete fetched' (by rw [TokenStream.skip, found]; rfl) keyless
  | next fetched further _ ih =>
    have fetched' := (commutes_fetch ahead).1
    rw [fetched] at fetched'
    exact .next fetched' further (ih ((commutes_fetch ahead).2 _ fetched) all)

/-- Giving up places makes no difference to what is found. -/
theorem dropStale (finds : Finds whole s tokens) (started : s.isStarted = true)
    (h : s.dropStale = some s') : Finds whole s' tokens := by
  have fetch := fetch_dropStale started h
  have same := eq_of_dropStale h
  cases finds with
  | stuck broken nothing found =>
    exact .stuck broken (fetch.trans nothing) (by rw [same]; exact found)
  | done complete found keyless =>
    refine .done complete (by rw [same]; exact found) ?_
    rw [same]
    exact keyless_freshen keyless
  | last complete fetched found keyless =>
    exact .last complete (fetch.trans fetched) found keyless
  | next fetched further later =>
    exact .next (fetch.trans fetched) (by rw [same]; exact further) later

end Finds

/-! ## The tokens that are handed out -/

/-- No key can be found to begin before the tokens that are left. -/
def Placed (s : TokenStream) : Prop :=
  ∃ (u : TokenStream) (first : Token), u.Ahead first ∧ u.skip = s

theorem Placed.fetch (placed : s.Placed) (h : s.fetch = some s') : s'.Placed := by
  obtain ⟨u, first, ahead, rfl⟩ := placed
  obtain ⟨same, still⟩ := commutes_fetch ahead
  obtain ⟨u', fetched, rfl⟩ := Option.map_eq_some_iff.1 (same.symm.trans h)
  exact ⟨u', first, still u' fetched, rfl⟩

theorem Placed.dropStale (placed : s.Placed) (h : s.dropStale = some s') : s'.Placed := by
  obtain ⟨u, first, ahead, rfl⟩ := placed
  obtain ⟨same, still⟩ := commutes_dropStale ahead
  obtain ⟨u', fetched, rfl⟩ := Option.map_eq_some_iff.1 (same.symm.trans h)
  exact ⟨u', first, still u' fetched, rfl⟩

theorem Placed.started (placed : s.Placed) : s.isStarted = true := by
  obtain ⟨u, first, ahead, rfl⟩ := placed
  exact ahead.started

/-- Once it is decided, the next token is ahead. -/
theorem Placed.ahead (placed : s.Placed) (decided : s.isUndecided = false)
    (head : s.queue.head? = some first) : s.Ahead first := by
  obtain ⟨u, _, ahead, rfl⟩ := placed
  refine ⟨ahead.started, head, fun k member possible => ?_⟩
  have after := ahead.places k member possible
  -- A key that may still be told lies after the token that was taken; the next one is decided.
  have other : k.number ≠ u.taken + 1 := by
    intro same
    rw [isUndecided, List.any_eq_false] at decided
    exact decided k member (by simp [possible, same, TokenStream.skip])
  show u.taken + 1 < k.number
  omega

/-- The token is the next one for good. -/
structure Settled (t : Token) (s : TokenStream) : Prop where
  ahead : s.Ahead t
  fresh : s.dropStale = some s
  decided : s.isUndecided = false

theorem dropStale_again (h : s.dropStale = some s') : s'.dropStale = some s' := by
  have again := dropStale_onward h (u := s) rfl (.refl _)
  have same : ({ s with places := s'.places } : TokenStream) = s' := by rw [eq_of_dropStale h]
  rw [same] at again
  exact again.trans h

theorem Settled.settle (settled : s.Settled t) (fuel : Nat) :
    settle (fuel + 1) s = some (t, s) := by
  obtain ⟨q, queue⟩ := settled.ahead.exists_queue
  simp [TokenStream.settle, queue, settled.fresh, settled.decided]

theorem Settled.peek (settled : s.Settled t) : s.peek = some (t, s) := settled.settle _

/-- A search goes on where the next token is not there or not decided. -/
theorem settle_succ (placed : s.Placed) (fuel : Nat) :
    (s.queue = [] ∨ ¬ s.Keyless) ∧ settle (fuel + 1) s = s.fetch >>= settle fuel ∨
      s.dropStale = none ∧ settle (fuel + 1) s = none ∨
      ∃ t s', s.dropStale = some s' ∧ s'.Settled t ∧ settle (fuel + 1) s = some (t, s') := by
  cases queue : s.queue with
  | nil => exact .inl ⟨.inl rfl, by simp [settle, queue]⟩
  | cons t q =>
    cases fresh : s.dropStale with
    | none => exact .inr (.inl ⟨rfl, by simp [settle, queue, fresh]⟩)
    | some s' =>
      have same := eq_of_dropStale fresh
      cases undecided : s'.isUndecided with
      | true =>
        refine .inl ⟨.inr fun keyless => ?_, ?_⟩
        · obtain ⟨k, member, possible⟩ := List.any_eq_true.1 undecided
          have none_possible := keyless_freshen keyless k (same ▸ member)
          simp [none_possible] at possible
        · simp [settle, queue, fresh, undecided, fetch_dropStale placed.started fresh]
      | false =>
        have head : s'.queue.head? = some t := by rw [same, queue]; rfl
        have ahead := (placed.dropStale fresh).ahead undecided head
        exact .inr (.inr ⟨t, s', rfl, ⟨ahead, dropStale_again fresh, undecided⟩,
          by simp [settle, queue, fresh, undecided]⟩)

/-- The outcome of a search for the next of the tokens: it is found, or not all of them are. -/
def Searched (whole : Bool) (tokens : List Token) (r : Option (Token × TokenStream)) : Prop :=
  whole = false ∧ r = none ∨
    ∃ t s', r = some (t, s') ∧ s'.Settled t ∧ Finds whole s' tokens

section Search

variable {whole : Bool} {tokens : List Token}

/-- Where no key may have begun, the first token is there. -/
theorem settle_keyless (complete : whole = true) (found : s.queue = tokens) (keyless : s.Keyless)
    (placed : s.Placed) (some_token : tokens ≠ []) (fuel : Nat) :
    Searched whole tokens (settle (fuel + 1) s) := by
  rcases settle_succ placed fuel with ⟨further, -⟩ | ⟨missed, -⟩ | ⟨t, s', fresh, settled, read⟩
  · rcases further with empty | key
    · exact (some_token (found.symm.trans empty)).elim
    · exact (key keyless).elim
  · rw [dropStale_eq, if_neg] at missed
    · cases missed
    · rw [Bool.not_eq_true, List.any_eq_false]
      intro k member
      simp [isStale, keyless k member]
  · exact .inr ⟨t, s', read, settled,
      (Finds.done complete found keyless).dropStale placed.started fresh⟩

theorem Finds.settle (finds : Finds whole s tokens) (placed : s.Placed) (some_token : tokens ≠ [])
    {fuel : Nat} (enough : s.cursor.left + 2 ≤ fuel) : Searched whole tokens (settle fuel s) := by
  -- Each token that is found but the last takes a character, so the fuel is enough for all of them.
  induction finds generalizing fuel with
  | @stuck s _ _ broken nothing found =>
    obtain ⟨fuel, rfl⟩ : ∃ n, fuel = n + 1 := ⟨fuel - 1, by omega⟩
    rcases settle_succ placed fuel with ⟨-, read⟩ | ⟨-, read⟩ | ⟨t, s', fresh, settled, read⟩
    · exact .inl ⟨broken, by rw [read, nothing]; rfl⟩
    · exact .inl ⟨broken, read⟩
    · exact .inr ⟨t, s', read, settled,
        (Finds.stuck broken nothing found).dropStale placed.started fresh⟩
  | done complete found keyless =>
    obtain ⟨fuel, rfl⟩ : ∃ n, fuel = n + 1 := ⟨fuel - 1, by omega⟩
    exact settle_keyless complete found keyless placed some_token fuel
  | last complete fetched found keyless =>
    obtain ⟨fuel, rfl⟩ : ∃ n, fuel = n + 2 := ⟨fuel - 2, by omega⟩
    rcases settle_succ placed (fuel + 1) with
      ⟨-, read⟩ | ⟨missed, -⟩ | ⟨t, s', fresh, settled, read⟩
    · rw [read, fetched]
      exact settle_keyless complete found keyless (placed.fetch fetched) some_token fuel
    · obtain ⟨s', fresh⟩ := dropStale_of_fetch placed.started fetched
      cases missed.symm.trans fresh
    · exact .inr ⟨t, s', read, settled,
        (Finds.last complete fetched found keyless).dropStale placed.started fresh⟩
  | next fetched further later ih =>
    obtain ⟨fuel, rfl⟩ : ∃ n, fuel = n + 1 := ⟨fuel - 1, by omega⟩
    rcases settle_succ placed fuel with ⟨-, read⟩ | ⟨missed, -⟩ | ⟨t, s', fresh, settled, read⟩
    · rw [read, fetched]
      exact ih (placed.fetch fetched) some_token (by omega)
    · obtain ⟨s', fresh⟩ := dropStale_of_fetch placed.started fetched
      cases missed.symm.trans fresh
    · exact .inr ⟨t, s', read, settled,
        (Finds.next fetched further later).dropStale placed.started fresh⟩

end Search

/-- The tokens that are handed out from here on, one after the other: all of them, or not the
last. -/
def Offers (whole : Bool) : List Token → TokenStream → Prop
  | [], _ => whole = true
  | t :: rest, s => whole = false ∧ s.peek = none ∨
    ∃ s', s.peek = some (t, s') ∧ s'.peek = some (t, s') ∧ Offers whole rest s'.skip

/-- What is found is handed out. -/
theorem Finds.offers {whole : Bool} {tokens : List Token} (finds : Finds whole s tokens)
    (placed : s.Placed) : Offers whole tokens s := by
  induction tokens generalizing s with
  | nil => exact finds.whole_of_nil rfl
  | cons first rest ih =>
    have enough : s.cursor.left + 2 ≤ s.cursor.left + 8 := by omega
    rcases finds.settle placed (List.cons_ne_nil _ _) enough with
      nothing | ⟨t, s', read, settled, found⟩
    · exact .inl nothing
    · obtain ⟨more, all⟩ := found.head settled.ahead
      obtain ⟨rfl, rfl⟩ := List.cons.inj all
      exact .inr ⟨s', read, settled.peek, ih (found.skip settled.ahead rfl)
        ⟨s', first, settled.ahead, rfl⟩⟩

end ProjectPicker.Yaml.TokenStream
