import ProjectPicker.Proofs.Yaml.Quoted
import ProjectPicker.Proofs.Yaml.Settling

/-!
# The marks of JSON in a token stream

* `TokenStream.At` : a stream at some characters, inside so many brackets;
* `finds_opening`, `finds_closing`, `finds_comma` : a bracket or a comma is a token;
* `finds_text` : a text is a token, unless it is marked;
* `finds_name` : a text and the colon after it are the tokens of a key, if it is one;
* `finds_end` : nothing is found behind the last bracket.

Each says what is found at a place from what is found after the token there.
-/

set_option autoImplicit false

namespace ProjectPicker.Yaml.TokenStream

open Json (quoteChars escapeChar)

/-- A stream before these characters, with these tokens found. There are `depth` places where a key
may begin, none of which has to be one, and no blocks. -/
structure At (depth : Nat) (chars : List Char) (queue : List Token) (s : TokenStream) : Prop where
  started : s.isStarted = true
  sized : s.cursor.Sized
  rest : s.cursor.rest = chars
  queue : s.queue = queue
  depth : s.places.length = depth
  optional : ∀ k ∈ s.places, k.isRequired = false
  indent : s.indent = -1
  outer : s.outerIndents = []

variable {s s' : TokenStream} {depth : Nat} {cs rest : List Char} {queue : List Token} {x : Char}

namespace At

theorem places (h : s.At depth cs queue) {places : List KeyPlace} (length : places.length = depth)
    (optional : ∀ k ∈ places, k.isRequired = false) :
    ({ s with places } : TokenStream).At depth cs queue :=
  { h with depth := length, optional }

theorem freshen (h : s.At depth cs queue) :
    ({ s with places := s.places.map (freshen s.cursor) } : TokenStream).At depth cs queue := by
  refine h.places (by rw [List.length_map, h.depth]) fun k member => ?_
  obtain ⟨k, known, rfl⟩ := List.mem_map.1 member
  rw [isRequired_freshen]
  exact h.optional k known

theorem dropStale (h : s.At depth cs queue) :
    s.dropStale = some { s with places := s.places.map (TokenStream.freshen s.cursor) } := by
  rw [dropStale_eq, if_neg]
  rw [Bool.not_eq_true, List.any_eq_false]
  intro k member
  simp [h.optional k member]

theorem closeBlocks (h : s.At depth cs queue) (column : Int) : s.closeBlocks column = s := by
  obtain ⟨⟩ := s
  have indent := h.indent
  have outer := h.outer
  simp only at indent outer
  subst indent outer
  unfold TokenStream.closeBlocks
  split <;> rfl

theorem dropKey (h : s.At depth cs queue) :
    ∃ places, s.dropKey = some { s with places } ∧ places.length = depth ∧
      (∀ k ∈ places, k.isRequired = false) ∧ ∀ k ∈ places.head?, k.isPossible = false := by
  have length := h.depth
  have optional := h.optional
  unfold TokenStream.dropKey
  split
  · rename_i none_left
    exact ⟨s.places, rfl, length, optional, by simp [none_left]⟩
  · rename_i k others places
    rw [places, List.forall_mem_cons] at optional
    rw [places] at length
    rw [if_neg (by simp [optional.1])]
    exact ⟨{ k with isPossible := false } :: others, rfl, length,
      List.forall_mem_cons.2 optional, by simp⟩

theorem noteKey (h : s.At (depth + 1) cs queue) :
    ∃ places, s.noteKey = some { s with places } ∧
      ({ s with places } : TokenStream).At (depth + 1) cs queue ∧
      (s.keyAllowed = true → ∃ k others, places = k :: others ∧ k.isPossible = true ∧
        k.number = s.nextNumber ∧ k.index = s.cursor.index ∧ k.line = s.cursor.line) := by
  by_cases allowed : s.keyAllowed = true
  · obtain ⟨places, dropped, length, optional, -⟩ := h.dropKey
    let k : KeyPlace := {
      isPossible := true
      isRequired := !(({ s with places } : TokenStream).inFlow) && s.indent == s.column
      number := s.nextNumber
      index := s.cursor.index
      line := s.cursor.line
      column := s.cursor.column }
    have no_block : (s.indent == s.column) = false := by
      rw [h.indent, beq_eq_false_iff_ne]
      unfold TokenStream.column
      omega
    have noted : s.noteKey = some { s with places := k :: places.tail } := by
      unfold TokenStream.noteKey
      rw [if_neg (by simp [allowed]), dropped]
      rfl
    refine ⟨k :: places.tail, noted, h.places ?_ ?_, fun _ => ⟨k, _, rfl, rfl, rfl, rfl, rfl⟩⟩
    · rw [List.length_cons, List.length_tail, length, Nat.add_sub_cancel]
    · refine List.forall_mem_cons.2 ⟨by simp [k, no_block], fun k member => ?_⟩
      exact optional k (List.mem_of_mem_tail member)
  · refine ⟨s.places, ?_, h, fun now => (allowed now).elim⟩
    unfold TokenStream.noteKey
    rw [if_pos (by simp [allowed])]
    rfl

end At

/-! ## Finding a token -/

/-- The characters that are not passed over before a token. -/
def isVisible (x : Char) : Bool := !(isGap x || isBreak x || x == '#' || x == '\uFEFF')

theorem pastBlanks_visible (visible : ∀ x ∈ s.cursor.rest.head?, isVisible x = true) :
    s.pastBlanks = s := by
  obtain ⟨⟨rest, size, index, line, column⟩, started, queue, taken, indent, outer, allowed,
    places⟩ := s
  cases rest with
  | nil =>
    simp [pastBlanks, skipByteOrderMark, skipBlanks, Cursor.has, Cursor.look, Cursor.skipWhile,
      Cursor.skipComment, Cursor.skipMany, Cursor.atBreak]
  | cons x rest =>
    have shown := visible x rfl
    simp only [isVisible, isGap, Bool.not_eq_true', Bool.or_eq_false_iff,
      beq_eq_false_iff_ne] at shown
    obtain ⟨⟨⟨⟨no_space, no_tab⟩, no_break⟩, no_comment⟩, no_mark⟩ := shown
    simp [pastBlanks, skipByteOrderMark, skipBlanks, Cursor.has, Cursor.look, Cursor.skipWhile,
      Cursor.skipComment, Cursor.skipMany, Cursor.atBreak, no_space, no_tab, no_break, no_comment,
      no_mark]

/-- The stream without the places for which it is too late. -/
def freshened (s : TokenStream) : TokenStream :=
  { s with places := s.places.map (freshen s.cursor) }

/-- A token begins at the next character. -/
theorem fetch_visible (h : s.At depth cs queue) (visible : ∀ x ∈ cs.head?, isVisible x = true) :
    s.fetch = s.freshened.fetchToken ∧ s.freshened.At depth cs queue := by
  refine ⟨?_, h.freshen⟩
  rw [fetch_started h.started, pastBlanks_visible (h.rest ▸ visible), h.dropStale]
  exact congrArg fetchToken (h.freshen.closeBlocks _)

theorem At.left (h : s.At depth cs queue) : s.cursor.left = cs.length := by
  rw [h.sized.left_eq, h.rest]

/-- A mark is passed, and its token is found. -/
theorem At.mark (h : s.At depth (x :: rest) queue) (t : Token) :
    (s.mark t 1).At depth rest (queue ++ [t]) where
  started := h.started
  sized := (Cursor.moved_skip h.rest).sized h.sized
  rest := Cursor.rest_skip h.rest
  queue := congrArg (· ++ [t]) h.queue
  depth := h.depth
  optional := h.optional
  indent := h.indent
  outer := h.outer

theorem At.finds {whole : Bool} {tokens : List Token} {depth' : Nat} {cs' : List Char}
    {queue' : List Token} (h : s.At depth cs queue) (fetched : s.fetch = some s')
    (h' : s'.At depth' cs' queue') (shorter : cs'.length < cs.length)
    (later : Finds whole s' tokens) : Finds whole s tokens :=
  .next fetched (by rw [h.left, h'.left]; exact shorter) later

section Finding

variable {whole : Bool} {tokens : List Token} {t : Token}

/-! ## Brackets and commas -/

/-- The character is the bracket that opens with this token. -/
def Opens (x : Char) (t : Token) : Prop :=
  isVisible x = true ∧ ∀ {s : TokenStream} {rest : List Char}, s.cursor.rest = x :: rest →
    s.fetchToken = s.fetchOpening t

theorem opens_sequence : Opens '[' .flowSequenceStart :=
  ⟨by decide, fun h => by simp [fetchToken, Cursor.look_zero h, Cursor.atMarker, Cursor.has]⟩

theorem opens_mapping : Opens '\x7b' .flowMappingStart :=
  ⟨by decide, fun h => by simp [fetchToken, Cursor.look_zero h, Cursor.atMarker, Cursor.has]⟩

def Closes (x : Char) (t : Token) : Prop :=
  isVisible x = true ∧ ∀ {s : TokenStream} {rest : List Char}, s.cursor.rest = x :: rest →
    s.fetchToken = s.fetchClosing t

theorem closes_sequence : Closes ']' .flowSequenceEnd :=
  ⟨by decide, fun h => by simp [fetchToken, Cursor.look_zero h, Cursor.atMarker, Cursor.has]⟩

theorem closes_mapping : Closes '\x7d' .flowMappingEnd :=
  ⟨by decide, fun h => by simp [fetchToken, Cursor.look_zero h, Cursor.atMarker, Cursor.has]⟩

theorem finds_opening (opens : Opens x t) (h : s.At (depth + 1) (x :: rest) queue)
    (next : ∀ s', s'.At (depth + 2) rest (queue ++ [t]) → s'.keyAllowed = true →
      Finds whole s' tokens) : Finds whole s tokens := by
  obtain ⟨fetch, fresh⟩ := fetch_visible h (by simp [opens.1])
  obtain ⟨places, noted, still, -⟩ := fresh.noteKey
  have opened : ({ s.freshened with keyAllowed := true, places := {} :: places } : TokenStream).At
      (depth + 2) (x :: rest) queue :=
    { still with
      depth := congrArg (· + 1) still.depth
      optional := List.forall_mem_cons.2 ⟨rfl, still.optional⟩ }
  have fetched : s.fetch = some (({ s.freshened with
      keyAllowed := true, places := {} :: places } : TokenStream).mark t 1) := by
    rw [fetch, opens.2 fresh.rest, fetchOpening, noted]
    rfl
  exact h.finds fetched (opened.mark t) (Nat.lt_succ_self _) (next _ (opened.mark t) rfl)

theorem finds_closing (closes : Closes x t) (h : s.At (depth + 2) (x :: rest) queue)
    (next : ∀ s', s'.At (depth + 1) rest (queue ++ [t]) → Finds whole s' tokens) :
    Finds whole s tokens := by
  obtain ⟨fetch, fresh⟩ := fetch_visible h (by simp [closes.1])
  obtain ⟨places, dropped, length, optional, -⟩ := fresh.dropKey
  have flow : ({ s.freshened with places } : TokenStream).inFlow = true := by
    simp [inFlow, length]
  have closed : ({ s.freshened with keyAllowed := false, places := places.tail } : TokenStream).At
      (depth + 1) (x :: rest) queue :=
    { fresh with
      depth := by rw [List.length_tail, length]; rfl
      optional := fun k member => optional k (List.mem_of_mem_tail member) }
  have fetched : s.fetch = some (({ s.freshened with
      keyAllowed := false, places := places.tail } : TokenStream).mark t 1) := by
    rw [fetch, closes.2 fresh.rest, fetchClosing, dropped]
    simp [flow]
  exact h.finds fetched (closed.mark t) (Nat.lt_succ_self _) (next _ (closed.mark t))

theorem finds_comma (h : s.At (depth + 1) (',' :: rest) queue)
    (next : ∀ s', s'.At (depth + 1) rest (queue ++ [.flowEntry]) → s'.keyAllowed = true →
      Finds whole s' tokens) : Finds whole s tokens := by
  obtain ⟨fetch, fresh⟩ := fetch_visible h (by simp [isVisible, isGap, isBreak])
  obtain ⟨places, dropped, length, optional, -⟩ := fresh.dropKey
  have passed : ({ s.freshened with keyAllowed := true, places } : TokenStream).At
      (depth + 1) (',' :: rest) queue := { fresh with depth := length, optional }
  have comma : s.freshened.fetchToken = s.freshened.fetchComma := by
    simp [fetchToken, Cursor.look_zero fresh.rest, Cursor.atMarker, Cursor.has]
  have fetched : s.fetch = some (({ s.freshened with
      keyAllowed := true, places } : TokenStream).mark .flowEntry 1) := by
    rw [fetch, comma, fetchComma, dropped]
    rfl
  exact h.finds fetched (passed.mark .flowEntry) (Nat.lt_succ_self _)
    (next _ (passed.mark .flowEntry) rfl)

/-! ## Texts -/

/-- The place noted for a text with these characters, if a key may begin there. -/
structure NotedFor (cs : List Char) (number : Nat) (c : Cursor) (k : KeyPlace) : Prop where
  possible : k.isPossible = true
  number : k.number = number
  index : k.index + (quoteChars cs).length = c.index
  line : k.line + breaks cs = c.line

/-- A text is found as its folded form, unless it is marked. -/
theorem fetch_text (h : s.At (depth + 1) (quoteChars cs ++ rest) queue) :
    (isMarked false cs = true → s.fetch = none) ∧
    (isMarked false cs = false → ∃ s', s.fetch = some s' ∧
      s'.At (depth + 1) rest (queue ++ [.scalar (folded cs) false]) ∧
      (s.keyAllowed = true → ∃ k others, s'.places = k :: others ∧
        NotedFor cs (s'.taken + queue.length) s'.cursor k)) := by
  obtain ⟨fetch, fresh⟩ := fetch_visible h (by simp [quoteChars, isVisible, isGap, isBreak])
  obtain ⟨places, noted, still, place⟩ := fresh.noteKey
  obtain ⟨stopped, found⟩ := readQuoted_chars fresh.rest fresh.sized
  have opened : s.freshened.cursor.rest = '\x22' :: (cs.flatMap escapeChar ++ '\x22' :: rest) := by
    rw [fresh.rest]
    simp [quoteChars]
  have text : s.freshened.fetchToken = s.freshened.fetchQuoted false := by
    simp [fetchToken, Cursor.look_zero opened, Cursor.atMarker, Cursor.has]
  have read : s.fetch = (readQuoted false s.freshened.cursor).map fun r =>
      ({ s.freshened with places, cursor := r.2, keyAllowed := false } : TokenStream).push
        (.scalar r.1 false) := by
    rw [fetch, text, fetchQuoted, fetchKeyed, noted]
    simp only [Option.bind_eq_bind, Option.bind_some]
    cases readQuoted false s.freshened.cursor <;> rfl
  refine ⟨fun marked => by rw [read, stopped marked]; rfl, fun unmarked => ?_⟩
  obtain ⟨c, moved, scalar⟩ := found unmarked
  refine ⟨_, by rw [read, scalar]; rfl, ?_, fun allowed => ?_⟩
  · exact { still with
      sized := moved.sized fresh.sized
      rest := by
        show c.rest = rest
        rw [moved.rest, fresh.rest, List.drop_left]
      queue := congrArg (· ++ [_]) still.queue }
  · obtain ⟨k, others, rfl, possible, number, index, line⟩ := place allowed
    refine ⟨k, others, rfl, possible, ?_, ?_, ?_⟩
    · rw [number, nextNumber, fresh.queue]
      rfl
    · exact (congrArg (· + _) index).trans moved.index.symm
    · exact (congrArg (· + _) line).trans moved.line.symm

theorem length_lt_quoted (cs rest : List Char) : rest.length < (quoteChars cs ++ rest).length := by
  have quotes : 0 < (quoteChars cs).length := by simp [quoteChars]
  rw [List.length_append]
  omega

theorem finds_text (h : s.At (depth + 1) (quoteChars cs ++ rest) queue) {missing : Token}
    (stuck : isMarked false cs = true → whole = false ∧ queue ++ [missing] <+: tokens)
    (next : isMarked false cs = false → ∀ s',
      s'.At (depth + 1) rest (queue ++ [.scalar (folded cs) false]) → Finds whole s' tokens) :
    Finds whole s tokens := by
  obtain ⟨stopped, found⟩ := fetch_text h
  cases marked : isMarked false cs with
  | true =>
    obtain ⟨broken, before⟩ := stuck marked
    exact .stuck broken (stopped marked) (h.queue ▸ before)
  | false =>
    obtain ⟨s', fetched, passed, -⟩ := found marked
    exact h.finds fetched passed (length_lt_quoted cs rest) (next marked s' passed)

/-! ## Keys -/

/-- Whether a text with these characters is told to be a key by the colon after it. -/
def isKey (cs : List Char) : Bool := breaks cs == 0 && (quoteChars cs).length ≤ maxKeyLength

def nameTokens (cs : List Char) : List Token :=
  (if isKey cs then [.key] else []) ++ [.scalar (folded cs) false]

theorem NotedFor.isPossible {number : Nat} {c : Cursor} {k : KeyPlace}
    (noted : NotedFor cs number c k) : (freshen c k).isPossible = isKey cs := by
  have index := noted.index
  have line := noted.line
  have stale : isStale c k = !isKey cs := by
    rw [Bool.eq_iff_iff]
    simp only [isStale, isKey, noted.possible, Bool.true_and, Bool.or_eq_true, decide_eq_true_eq,
      Bool.not_eq_true', Bool.and_eq_false_iff, beq_eq_false_iff_ne, decide_eq_false_iff_not]
    omega
  unfold freshen
  rw [stale]
  cases isKey cs <;> simp [noted.possible]

theorem openBlock_inFlow (flow : s.inFlow = true) (column : Int) (number : Nat) (t : Token) :
    s.openBlock column number t = s := by
  simp [openBlock, flow]

/-- The last token is told to be a key: a mark of it goes before the token. -/
theorem At.keyed {t : Token} (h : s.At depth rest (queue ++ [t])) {k : KeyPlace}
    {others : List KeyPlace} (places : s.places = k :: others)
    (number : k.number = s.taken + queue.length) :
    ({ s.insertAt k.number .key with
      keyAllowed := false, places := { k with isPossible := false } :: others } : TokenStream).At
        depth rest (queue ++ ([.key] ++ [t])) := by
  have queue' : (s.insertAt k.number .key).queue = queue ++ ([.key] ++ [t]) := by
    have place : s.taken + queue.length - s.taken = queue.length := Nat.add_sub_cancel_left _ _
    simp [insertAt, number, h.queue, place, List.splitAt_eq]
  have depth' := h.depth
  have optional := h.optional
  rw [places] at depth' optional
  rw [List.forall_mem_cons] at optional
  exact { h with queue := queue', depth := depth', optional := List.forall_mem_cons.2 optional }

/-- A colon after the place where a text began. -/
theorem fetch_colon (h : s.At (depth + 2) (':' :: rest) (queue ++ [.scalar (folded cs) false]))
    {k : KeyPlace} {others : List KeyPlace} (places : s.places = k :: others)
    (noted : NotedFor cs (s.taken + queue.length) s.cursor k) :
    ∃ s', s.fetch = some s' ∧ s'.At (depth + 2) rest (queue ++ nameTokens cs ++ [.value]) := by
  obtain ⟨fetch, fresh⟩ := fetch_visible h (by simp [isVisible, isGap, isBreak])
  have flow : s.freshened.inFlow = true := by simp [inFlow, fresh.depth]
  have colon : s.freshened.fetchToken = s.freshened.fetchValue := by
    simp [fetchToken, Cursor.look_zero fresh.rest, Cursor.atMarker, Cursor.has, flow]
  have first : s.freshened.places = freshen s.cursor k :: others.map (freshen s.cursor) := by
    simp [freshened, places]
  have number : (freshen s.cursor k).number = s.taken + queue.length := by
    rw [← noted.number]
    unfold freshen
    split <;> rfl
  have possible := noted.isPossible
  unfold nameTokens
  cases key : isKey cs with
  | true =>
    rw [key] at possible
    -- The mark of the key goes in before the text, which was found already.
    have told := fresh.keyed first number
    refine ⟨_, ?_, told.mark .value⟩
    rw [fetch, colon, fetchValue, first]
    simp only [possible, if_true]
    rw [openBlock_inFlow (s := s.freshened.insertAt _ _) flow]
  | false =>
    rw [key] at possible
    have passed : ({ s.freshened with keyAllowed := !s.freshened.inFlow } : TokenStream).At
        (depth + 2) (':' :: rest) (queue ++ [.scalar (folded cs) false]) := { fresh with }
    refine ⟨_, ?_, passed.mark .value⟩
    rw [fetch, colon, fetchValue, first]
    simp [possible, openBlockHere, flow]

theorem finds_name (h : s.At (depth + 2) (quoteChars cs ++ ':' :: rest) queue)
    (allowed : s.keyAllowed = true) {missing : Token}
    (stuck : isMarked false cs = true → whole = false ∧ queue ++ [missing] <+: tokens)
    (next : isMarked false cs = false → ∀ s',
      s'.At (depth + 2) rest (queue ++ nameTokens cs ++ [.value]) → Finds whole s' tokens) :
    Finds whole s tokens := by
  obtain ⟨stopped, found⟩ := fetch_text h
  cases marked : isMarked false cs with
  | true =>
    obtain ⟨broken, before⟩ := stuck marked
    exact .stuck broken (stopped marked) (h.queue ▸ before)
  | false =>
    obtain ⟨s₁, fetched, passed, place⟩ := found marked
    obtain ⟨k, others, places, noted⟩ := place allowed
    obtain ⟨s₂, fetched₂, passed₂⟩ := fetch_colon passed places noted
    exact h.finds fetched passed (length_lt_quoted cs _)
      (passed.finds fetched₂ passed₂ (Nat.lt_succ_self _) (next marked s₂ passed₂))

/-! ## The end -/

/-- Nothing but the end is found behind the last bracket. -/
theorem finds_end (h : s.At 1 [] queue) (complete : whole = true)
    (all : queue ++ [.streamEnd] = tokens) : Finds whole s tokens := by
  obtain ⟨fetch, fresh⟩ := fetch_visible h (by simp)
  have ended : s.freshened.fetchToken = s.freshened.fetchEnd := by
    simp [fetchToken, Cursor.look, fresh.rest]
  let c := if s.cursor.column == 0 then s.cursor
    else { s.cursor with column := 0, line := s.cursor.line + 1 }
  have behind : ({ s.freshened with cursor := c } : TokenStream).At 1 [] queue := by
    refine { fresh with sized := ?_, rest := ?_ }
    · unfold Cursor.Sized c
      split <;> exact h.sized
    · unfold c
      dsimp only
      split <;> exact h.rest
  obtain ⟨places, dropped, length, -, free⟩ := behind.dropKey
  have fetched : s.fetch = some (({ s.freshened with
      cursor := c, places, keyAllowed := false } : TokenStream).push .streamEnd) := by
    rw [fetch, ended]
    change (({ s.freshened with cursor := c } : TokenStream).closeBlocks (-1)).dropKey >>= _ = _
    rw [behind.closeBlocks, dropped]
    rfl
  refine .last complete fetched ?_ ?_
  · rw [← all, ← fresh.queue]
    rfl
  · obtain ⟨k, rfl⟩ := List.length_eq_one_iff.1 length
    intro k' member
    obtain rfl := List.mem_singleton.1 member
    exact free _ rfl

end Finding

end ProjectPicker.Yaml.TokenStream
