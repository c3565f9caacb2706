import ProjectPicker.Proofs.Yaml.Cursor
import ProjectPicker.Yaml.Token.Stream

/-!
# Taking tokens from a stream

* `TokenStream.Ahead` : the next token is there, and no key can be found to begin before it;
* `Commutes` : such a token may be taken before or after a function is applied;
* `commutes_fetchEnd` and the lemmas after it : one for each kind of tokens;
* `commutes_fetch` : a token may be taken before or after a further one is found.
-/

set_option autoImplicit false

namespace ProjectPicker.Yaml.TokenStream

variable {s s' : TokenStream} {first t : Token}

/-! ## Taking a token before a further one is found -/

/-- The token is the next one, and each place where a key may have begun lies after it. -/
structure Ahead (first : Token) (s : TokenStream) : Prop where
  started : s.isStarted = true
  head : s.queue.head? = some first
  places : ∀ k ∈ s.places, k.isPossible = true → s.taken < k.number

/-- The next token is taken in the one result and still there in the other. -/
def Taken (first : Token) (r' r : Option TokenStream) : Prop :=
  r' = r.map skip ∧ ∀ s' ∈ r, s'.Ahead first

/-- The next token may be taken before or after the function. -/
def Commutes (first : Token) (f : TokenStream → Option TokenStream) (s : TokenStream) : Prop :=
  Taken first (f s.skip) (f s)

theorem Taken.none : Taken first none none := ⟨rfl, nofun⟩

theorem Taken.some (ahead : s.Ahead first) : Taken first (some s.skip) (some s) :=
  ⟨rfl, fun _ found => Option.mem_some_iff.1 found ▸ ahead⟩

theorem Taken.ite {p : Prop} [Decidable p] {r₁ r₁' r₂ r₂' : Option TokenStream}
    (yes : Taken first r₁' r₁) (no : Taken first r₂' r₂) :
    Taken first (if p then r₁' else r₂') (if p then r₁ else r₂) := by
  split
  · exact yes
  · exact no

theorem Commutes.bind {f g : TokenStream → Option TokenStream} (hf : Commutes first f s)
    (hg : ∀ s', s'.Ahead first → Commutes first g s') : Commutes first (fun s => f s >>= g) s := by
  obtain ⟨same, ahead⟩ := hf
  unfold Commutes
  dsimp only
  rw [same]
  cases found : f s with
  | none => exact .none
  | some s' => exact hg s' (ahead s' found)

/-! ### Queues and blocks -/

theorem Ahead.exists_queue (ahead : s.Ahead first) : ∃ q, s.queue = first :: q :=
  List.head?_eq_some_iff.1 ahead.head

theorem Ahead.push (ahead : s.Ahead first) (t : Token) : (s.push t).Ahead first where
  started := ahead.started
  head := by simp [TokenStream.push, ahead.head]
  places := ahead.places

theorem push_skip (ahead : s.Ahead first) (t : Token) : s.skip.push t = (s.push t).skip := by
  obtain ⟨q, queue⟩ := ahead.exists_queue
  simp [TokenStream.push, skip, queue]

theorem nextNumber_skip (ahead : s.Ahead first) : s.skip.nextNumber = s.nextNumber := by
  obtain ⟨q, queue⟩ := ahead.exists_queue
  simp only [nextNumber, skip, queue, List.tail_cons, List.length_cons]
  omega

theorem lt_nextNumber (ahead : s.Ahead first) : s.taken < s.nextNumber := by
  obtain ⟨q, queue⟩ := ahead.exists_queue
  simp only [nextNumber, queue, List.length_cons]
  omega

section Later

variable {number : Nat} (ahead : s.Ahead first) (later : s.taken < number)

include ahead later

theorem insertAt_later (t : Token) :
    (s.insertAt number t).Ahead first ∧ s.skip.insertAt number t = (s.insertAt number t).skip := by
  obtain ⟨q, queue⟩ := ahead.exists_queue
  obtain ⟨n, here⟩ : ∃ n, number - s.taken = n + 1 := ⟨number - s.taken - 1, by omega⟩
  have there : number - (s.taken + 1) = n := by omega
  constructor
  · exact ⟨ahead.started, by simp [insertAt, queue, here, List.splitAt_eq], ahead.places⟩
  · simp [insertAt, skip, queue, here, there, List.splitAt_eq]

theorem openBlock_later (column : Int) (t : Token) :
    (s.openBlock column number t).Ahead first ∧
      s.skip.openBlock column number t = (s.openBlock column number t).skip := by
  by_cases opens : (!s.inFlow && s.indent < column) = true
  · let s' : TokenStream := { s with indent := column, outerIndents := s.indent :: s.outerIndents }
    have still : s'.Ahead first := ⟨ahead.started, ahead.head, ahead.places⟩
    have inserted := insertAt_later still later t
    unfold openBlock
    rw [if_pos opens, if_pos (show (!s.skip.inFlow && s.skip.indent < column) = true from opens)]
    exact inserted
  · unfold openBlock
    rw [if_neg opens, if_neg (show ¬ (!s.skip.inFlow && s.skip.indent < column) = true from opens)]
    exact ⟨ahead, rfl⟩

end Later

theorem places_openBlock (column : Int) (number : Nat) (t : Token) :
    (s.openBlock column number t).places = s.places := by
  unfold openBlock
  split <;> rfl

theorem closeBlocksFrom_ahead (column : Int) :
    ∀ {outer : List Int} {s : TokenStream} (indent : Int), s.Ahead first →
      (closeBlocksFrom column indent outer s).Ahead first ∧
        closeBlocksFrom column indent outer s.skip = (closeBlocksFrom column indent outer s).skip
  | [], s, indent, ahead => ⟨⟨ahead.started, ahead.head, ahead.places⟩, rfl⟩
  | o :: outer, s, indent, ahead => by
    unfold closeBlocksFrom
    split
    · rw [push_skip ahead]
      exact closeBlocksFrom_ahead column o (ahead.push .blockEnd)
    · exact ⟨⟨ahead.started, ahead.head, ahead.places⟩, rfl⟩

theorem closeBlocks_ahead (ahead : s.Ahead first) (column : Int) :
    (s.closeBlocks column).Ahead first ∧
      s.skip.closeBlocks column = (s.closeBlocks column).skip := by
  by_cases flow : s.inFlow = true
  · unfold closeBlocks
    rw [if_pos flow, if_pos (show s.skip.inFlow = true from flow)]
    exact ⟨ahead, rfl⟩
  · unfold closeBlocks
    rw [if_neg flow, if_neg (show ¬ s.skip.inFlow = true from flow)]
    exact closeBlocksFrom_ahead column s.indent ahead

/-! ### Keys -/

theorem commutes_dropKey (ahead : s.Ahead first) : Commutes first dropKey s := by
  unfold Commutes dropKey
  rw [show s.skip.places = s.places from rfl]
  split
  · exact .some ahead
  · rename_i k rest places
    refine .ite .none (.some (s := { s with places := { k with isPossible := false } :: rest }) ?_)
    refine ⟨ahead.started, ahead.head, List.forall_mem_cons.2 ⟨nofun, fun k' member => ?_⟩⟩
    exact ahead.places k' (by rw [places]; exact List.mem_cons_of_mem _ member)

theorem commutes_noteKey (ahead : s.Ahead first) : Commutes first noteKey s := by
  have noted : Commutes first (fun s => s.dropKey >>= fun s => some { s with
      places := {
        isPossible := true
        isRequired := !s.inFlow && s.indent == s.column
        number := s.nextNumber
        index := s.cursor.index
        line := s.cursor.line
        column := s.cursor.column } :: s.places.tail }) s := by
    refine (commutes_dropKey ahead).bind fun s ahead => ?_
    have later := lt_nextNumber ahead
    unfold Commutes
    dsimp only
    rw [nextNumber_skip ahead]
    refine .some (s := { s with places := _ :: s.places.tail }) ⟨ahead.started, ahead.head, ?_⟩
    exact List.forall_mem_cons.2 ⟨fun _ => later, fun k member =>
      ahead.places k (List.mem_of_mem_tail member)⟩
  unfold Commutes noteKey
  rw [show s.skip.keyAllowed = s.keyAllowed from rfl]
  cases s.keyAllowed with
  | false => exact .some ahead
  | true => exact noted

/-- The place is given up if it is too late for it. -/
def freshen (c : Cursor) (k : KeyPlace) : KeyPlace :=
  if isStale c k then { k with isPossible := false } else k

theorem dropStale_eq (s : TokenStream) :
    s.dropStale = if s.places.any fun k => isStale s.cursor k && k.isRequired then none
      else some { s with places := s.places.map (freshen s.cursor) } := rfl

theorem eq_of_dropStale (h : s.dropStale = some s') :
    s' = { s with places := s.places.map (freshen s.cursor) } := by
  rw [dropStale_eq] at h
  split at h
  · cases h
  · exact (Option.some.inj h).symm

theorem commutes_dropStale (ahead : s.Ahead first) : Commutes first dropStale s := by
  refine .ite .none (.some (s := { s with places := s.places.map (freshen s.cursor) })
    ⟨ahead.started, ahead.head, ?_⟩)
  intro k member possible
  obtain ⟨k, known, rfl⟩ := List.mem_map.1 member
  unfold freshen at possible ⊢
  split at possible
  · cases possible
  · rename_i fresh
    rw [if_neg fresh]
    exact ahead.places k known possible

/-! ### The kinds of tokens -/

section Fetching

variable {f : TokenStream → Option TokenStream}

theorem taken_push (ahead : s.Ahead first) (t : Token) :
    Taken first (some (s.skip.push t)) (some (s.push t)) := by
  rw [push_skip ahead]
  exact .some (ahead.push t)

theorem taken_read {α : Type} {r : Option α} {t : α → Token} {n : α → TokenStream}
    (ahead : ∀ a, (n a).Ahead first) :
    Taken first (r >>= fun a => some ((n a).skip.push (t a)))
      (r >>= fun a => some ((n a).push (t a))) := by
  cases r with
  | none => exact .none
  | some a => exact taken_push (ahead a) (t a)

theorem commutes_closed (ahead : s.Ahead first) (column : Int)
    (hf : ∀ s', s'.Ahead first → Commutes first f s') :
    Commutes first (fun s => f (s.closeBlocks column)) s := by
  obtain ⟨still, closed⟩ := closeBlocks_ahead ahead column
  unfold Commutes
  dsimp only
  rw [closed]
  exact hf _ still

theorem commutes_fetchEnd (ahead : s.Ahead first) : Commutes first fetchEnd s :=
  commutes_closed
    (s := { s with cursor :=
      if s.cursor.column == 0 then s.cursor
      else { s.cursor with column := 0, line := s.cursor.line + 1 } })
    ⟨ahead.started, ahead.head, ahead.places⟩ (-1)
    (f := fun s => s.dropKey >>= fun s =>
      some (({ s with keyAllowed := false } : TokenStream).push .streamEnd)) fun _ ahead =>
    (commutes_dropKey ahead).bind fun s ahead =>
      taken_push (s := { s with keyAllowed := false }) ⟨ahead.started, ahead.head, ahead.places⟩ _

theorem commutes_fetchDirective (ahead : s.Ahead first) : Commutes first fetchDirective s :=
  commutes_closed ahead (-1)
    (f := fun s => s.dropKey >>= fun s => readDirective s.cursor >>= fun r =>
      some (({ s with cursor := r.2, keyAllowed := false } : TokenStream).push r.1)) fun _ ahead =>
    (commutes_dropKey ahead).bind fun s ahead =>
      taken_read (r := readDirective s.cursor)
        (n := fun r => { s with cursor := r.2, keyAllowed := false })
        fun _ => ⟨ahead.started, ahead.head, ahead.places⟩

theorem commutes_fetchMarker (ahead : s.Ahead first) (t : Token) :
    Commutes first (fetchMarker t) s :=
  commutes_closed ahead (-1)
    (f := fun s => s.dropKey >>= fun s =>
      some (({ s with keyAllowed := false } : TokenStream).mark t 3)) fun _ ahead =>
    (commutes_dropKey ahead).bind fun s ahead =>
      taken_push (s := { s with cursor := s.cursor.skipMany 3, keyAllowed := false })
        ⟨ahead.started, ahead.head, ahead.places⟩ t

theorem commutes_fetchOpening (ahead : s.Ahead first) (t : Token) :
    Commutes first (fetchOpening t) s :=
  (commutes_noteKey ahead).bind fun s ahead =>
    taken_push (s := { s with
        cursor := s.cursor.skipMany 1, keyAllowed := true, places := {} :: s.places })
      ⟨ahead.started, ahead.head, List.forall_mem_cons.2 ⟨nofun, ahead.places⟩⟩ t

theorem commutes_fetchClosing (ahead : s.Ahead first) (t : Token) :
    Commutes first (fetchClosing t) s := by
  refine (commutes_dropKey ahead).bind fun s ahead =>
    taken_push (s := { s with
        cursor := s.cursor.skipMany 1, keyAllowed := false
        places := if s.inFlow then s.places.tail else s.places })
      ⟨ahead.started, ahead.head, fun k member => ahead.places k ?_⟩ t
  dsimp only at member
  split at member
  · exact List.mem_of_mem_tail member
  · exact member

theorem commutes_fetchComma (ahead : s.Ahead first) : Commutes first fetchComma s :=
  (commutes_dropKey ahead).bind fun s ahead =>
    taken_push (s := { s with cursor := s.cursor.skipMany 1, keyAllowed := true })
      ⟨ahead.started, ahead.head, ahead.places⟩ .flowEntry

theorem commutes_openBlockHere (ahead : s.Ahead first) (t : Token) :
    Commutes first (openBlockHere t) s := by
  obtain ⟨still, opened⟩ := openBlock_later ahead (lt_nextNumber ahead) s.column t
  refine .ite (.some ahead) (.ite ?_ .none)
  rw [nextNumber_skip ahead, show s.skip.column = s.column from rfl, opened]
  exact .some still

theorem commutes_fetchEntry (ahead : s.Ahead first) : Commutes first fetchEntry s :=
  (commutes_openBlockHere ahead _).bind fun _ ahead => (commutes_dropKey ahead).bind fun s ahead =>
    taken_push (s := { s with cursor := s.cursor.skipMany 1, keyAllowed := true })
      ⟨ahead.started, ahead.head, ahead.places⟩ .blockEntry

theorem commutes_fetchKey (ahead : s.Ahead first) : Commutes first fetchKey s :=
  (commutes_openBlockHere ahead _).bind fun _ ahead => (commutes_dropKey ahead).bind fun s ahead =>
    taken_push (s := { s with cursor := s.cursor.skipMany 1, keyAllowed := !s.inFlow })
      ⟨ahead.started, ahead.head, ahead.places⟩ .key

theorem commutes_fetchValue (ahead : s.Ahead first) : Commutes first fetchValue s := by
  unfold Commutes fetchValue
  rw [show s.skip.places = s.places from rfl]
  split
  · rename_i k rest places
    split
    · rename_i possible
      have later : s.taken < k.number :=
        ahead.places k (by rw [places]; exact List.mem_cons_self) possible
      -- The key begins after the first token, so its mark goes in behind that token.
      obtain ⟨inserted, insert⟩ := insertAt_later ahead later .key
      obtain ⟨opened, open_⟩ := openBlock_later inserted later k.column .blockMappingStart
      rw [insert, open_]
      refine taken_push (s := { TokenStream.openBlock k.column k.number .blockMappingStart _ with
          cursor := _, keyAllowed := false, places := { k with isPossible := false } :: rest })
        ⟨opened.started, opened.head, List.forall_mem_cons.2 ⟨nofun, fun k' member => ?_⟩⟩ .value
      refine opened.places k' ?_
      rw [places_openBlock, show (s.insertAt k.number .key).places = s.places from rfl, places]
      exact List.mem_cons_of_mem _ member
    · exact (commutes_openBlockHere ahead .blockMappingStart).bind fun s ahead =>
        taken_push (s := { s with cursor := s.cursor.skipMany 1, keyAllowed := !s.inFlow })
          ⟨ahead.started, ahead.head, ahead.places⟩ .value
  · exact .none

theorem commutes_fetchKeyed (ahead : s.Ahead first) (read : Cursor → Option (Token × Cursor)) :
    Commutes first (fetchKeyed read) s :=
  (commutes_noteKey ahead).bind fun s ahead =>
    taken_read (r := read s.cursor) (n := fun r => { s with cursor := r.2, keyAllowed := false })
      fun _ => ⟨ahead.started, ahead.head, ahead.places⟩

theorem commutes_fetchBlock (ahead : s.Ahead first) (literal : Bool) :
    Commutes first (fetchBlock literal) s :=
  (commutes_dropKey ahead).bind fun s ahead =>
    taken_read (r := readBlock literal s.indent s.cursor) (t := fun r => .scalar r.1 false)
      (n := fun r => { s with cursor := r.2, keyAllowed := true })
      fun _ => ⟨ahead.started, ahead.head, ahead.places⟩

theorem commutes_fetchPlain (ahead : s.Ahead first) : Commutes first fetchPlain s :=
  (commutes_noteKey ahead).bind fun s ahead =>
    taken_read (r := readPlain s.inFlow (s.indent + 1) s.cursor)
      (t := fun r => .scalar r.1 true)
      (n := fun r => { s with cursor := r.2.2, keyAllowed := r.2.1 })
      fun _ => ⟨ahead.started, ahead.head, ahead.places⟩

theorem commutes_fetchToken (ahead : s.Ahead first) : Commutes first fetchToken s := by
  unfold Commutes fetchToken
  simp only [show s.skip.cursor = s.cursor from rfl, show s.skip.inFlow = s.inFlow from rfl]
  cases s.cursor.look 0 with
  | none => exact commutes_fetchEnd ahead
  | some x =>
    refine .ite (commutes_fetchDirective ahead) ?_
    refine .ite (commutes_fetchMarker ahead _) (.ite (commutes_fetchMarker ahead _) ?_)
    refine .ite (commutes_fetchOpening ahead _) (.ite (commutes_fetchOpening ahead _) ?_)
    refine .ite (commutes_fetchClosing ahead _) (.ite (commutes_fetchClosing ahead _) ?_)
    refine .ite (commutes_fetchComma ahead) (.ite (commutes_fetchEntry ahead) ?_)
    refine .ite (commutes_fetchKey ahead) (.ite (commutes_fetchValue ahead) ?_)
    refine .ite (commutes_fetchKeyed ahead _) (.ite (commutes_fetchKeyed ahead _) ?_)
    refine .ite (commutes_fetchKeyed ahead (readTag s.inFlow)) ?_
    refine .ite (commutes_fetchBlock ahead true) (.ite (commutes_fetchBlock ahead false) ?_)
    refine .ite (commutes_fetchKeyed ahead _) (.ite (commutes_fetchKeyed ahead _) ?_)
    exact .ite (commutes_fetchPlain ahead) .none

end Fetching

/-! ## Finding a token -/

def pastBlanks (s : TokenStream) : TokenStream :=
  s.skipByteOrderMark.skipBlanks (s.cursor.left + 1)

theorem fetch_started (started : s.isStarted = true) :
    s.fetch = s.pastBlanks.dropStale >>= fun s => (s.closeBlocks s.column).fetchToken := by
  unfold fetch
  rw [started]
  rfl

/-- Only where the text is read, and whether it is inside brackets, matters to blanks. -/
theorem skipBlanks_congr {u v : TokenStream} (cursor : v.cursor = u.cursor)
    (keyAllowed : v.keyAllowed = u.keyAllowed) (inFlow : v.inFlow = u.inFlow) (fuel : Nat) :
    v.skipBlanks fuel = { v with
      cursor := (u.skipBlanks fuel).cursor, keyAllowed := (u.skipBlanks fuel).keyAllowed } := by
  induction fuel generalizing u v with
  | zero =>
    obtain ⟨⟩ := v
    simp_all [skipBlanks]
  | succ fuel ih =>
    unfold skipBlanks
    rw [cursor, keyAllowed, inFlow]
    dsimp only
    split
    · exact ih rfl rfl inFlow
    · obtain ⟨⟩ := v
      simp_all

theorem pastBlanks_congr {u v : TokenStream} (cursor : v.cursor = u.cursor)
    (keyAllowed : v.keyAllowed = u.keyAllowed) (inFlow : v.inFlow = u.inFlow) :
    v.pastBlanks = { v with
      cursor := u.pastBlanks.cursor, keyAllowed := u.pastBlanks.keyAllowed } := by
  unfold pastBlanks skipByteOrderMark
  rw [cursor]
  split
  · exact skipBlanks_congr (u := { u with cursor := u.cursor.skip })
      (v := { v with cursor := u.cursor.skip }) rfl keyAllowed inFlow _
  · exact skipBlanks_congr cursor keyAllowed inFlow _

theorem onward_skipBlanks (fuel : Nat) : s.cursor.Onward (s.skipBlanks fuel).cursor := by
  induction fuel generalizing s with
  | zero => exact .refl _
  | succ fuel ih =>
    unfold skipBlanks
    have blanks := (Cursor.onward_skipMany s.cursor _).trans
      (Cursor.onward_skipComment (s.cursor.skipWhile fun x =>
        x == ' ' || ((s.inFlow || !s.keyAllowed) && x == '\t')))
    dsimp only
    split
    · exact (blanks.trans (Cursor.onward_skipLine _)).trans
        (ih (s := { s with cursor := _, keyAllowed := _ }))
    · exact blanks

theorem onward_pastBlanks (s : TokenStream) : s.cursor.Onward s.pastBlanks.cursor := by
  have mark : s.cursor.Onward s.skipByteOrderMark.cursor := by
    unfold skipByteOrderMark
    split
    · exact Cursor.onward_skip _
    · exact .refl _
  exact mark.trans (onward_skipBlanks _)

/-- A token may be taken before or after a further one is found. -/
theorem commutes_fetch (ahead : s.Ahead first) : Commutes first fetch s := by
  have still : s.pastBlanks.Ahead first := by
    rw [pastBlanks_congr (u := s) (v := s) rfl rfl rfl]
    exact ⟨ahead.started, ahead.head, ahead.places⟩
  have found : Commutes first (fun s => s.dropStale >>= fun s =>
      (s.closeBlocks s.column).fetchToken) s.pastBlanks :=
    (commutes_dropStale still).bind fun s ahead =>
      commutes_closed ahead s.column (f := fetchToken) fun _ => commutes_fetchToken
  have taken : s.skip.pastBlanks = s.pastBlanks.skip := by
    rw [pastBlanks_congr (u := s) (v := s.skip) rfl rfl rfl,
      pastBlanks_congr (u := s) (v := s) rfl rfl rfl]
    rfl
  unfold Commutes
  rw [fetch_started ahead.started, fetch_started (s := s.skip) ahead.started, taken]
  exact found

end ProjectPicker.Yaml.TokenStream
