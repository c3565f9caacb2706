import ProjectPicker.Proofs.Yaml.Values
import ProjectPicker.Yaml.Document

/-!
# JSON as a document of YAML

* `length_tokens_le` : a value has no more tokens than characters;
* `offers_compact` : the tokens of a value are handed out of its text;
* `Document.read_compact` : the text of a value is a whole document just if its characters are
  allowed, no text in it is marked, and its names are keys. It is the document of its node then.
-/

set_option autoImplicit false

namespace ProjectPicker.Yaml

open Json (Textual every chars itemChars memberChars quoteChars)
open TokenStream (nameTokens newline_compact afterColon_compact)

/-! ## How many tokens there are -/

theorem length_keyTokens_le (name : String) :
    (keyTokens (.str name)).length ≤ (quoteChars name.toList ++ [':']).length := by
  have few : (keyTokens (.str name)).length ≤ 3 := by
    unfold keyTokens nameTokens
    split <;> simp
  have many : 3 ≤ (quoteChars name.toList ++ [':']).length := by simp [quoteChars]
  exact few.trans many

theorem length_itemTokens_le (k : Nat) : ∀ {items : List Json},
    (∀ j ∈ items, ∀ k, (tokens j).length ≤ (chars .compact k j).length) →
      (itemTokens items).length ≤ (itemChars .compact k items).length
  | [], _ => Nat.le_refl _
  | j :: items, each => by
    obtain ⟨here, later⟩ := List.forall_mem_cons.1 each
    have := here k
    have := length_itemTokens_le k later
    simp only [itemTokens, itemChars, newline_compact, List.length_append, List.length_cons,
      List.length_nil]
    omega

theorem length_memberTokens_le (k : Nat) : ∀ {members : List (String × Json)},
    (∀ m ∈ members, ∀ k, (tokens m.2).length ≤ (chars .compact k m.2).length) →
      (memberTokens (members.map fun m => (.str m.1, m.2))).length ≤
        (memberChars .compact k (members.map fun m => (.str m.1, m.2))).length
  | [], _ => Nat.le_refl _
  | (name, j) :: members, each => by
    obtain ⟨here, later⟩ := List.forall_mem_cons.1 each
    have := here k
    have := length_memberTokens_le k later
    have := length_keyTokens_le name
    have text : chars .compact k (.str name) = quoteChars name.toList := rfl
    simp only [List.map_cons, memberTokens, memberChars, newline_compact, afterColon_compact, text,
      List.length_append, List.length_cons, List.length_nil] at *
    omega

theorem length_tokens_le {j : Json} (textual : Textual j) (k : Nat) :
    (tokens j).length ≤ (chars .compact k j).length := by
  induction textual generalizing k with
  | str s => simp [tokens, Json.str, chars, quoteChars]
  | @array items _ ih =>
    cases items with
    | nil => exact Nat.le_refl _
    | cons j items =>
      obtain ⟨here, later⟩ := List.forall_mem_cons.1 ih
      have := here (k + 1)
      have := length_itemTokens_le (k + 1) later
      simp only [tokens, chars, newline_compact, List.length_append, List.length_cons,
        List.length_nil]
      omega
  | @record members _ ih =>
    cases members with
    | nil => exact Nat.le_refl _
    | cons m members =>
      obtain ⟨here, later⟩ := List.forall_mem_cons.1 ih
      have := here (k + 1)
      have := length_memberTokens_le (k + 1) later
      have := length_keyTokens_le m.1
      have text : chars .compact (k + 1) (.str m.1) = quoteChars m.1.toList := rfl
      simp only [Json.record, List.map_cons, tokens, chars, newline_compact, afterColon_compact,
        text, List.length_append, List.length_cons, List.length_nil] at *
      omega

/-! ## The tokens of a text -/

namespace TokenStream

/-- The stream of a text whose start was handed out. -/
def begun (text : String) : TokenStream :=
  { cursor := Cursor.ofText text, isStarted := true, taken := 1 }

def started (text : String) : TokenStream :=
  { cursor := Cursor.ofText text, isStarted := true, queue := [.streamStart] }

theorem settle_started (text : String) (fuel : Nat) :
    settle (fuel + 1) (started text) = some (.streamStart, started text) := by
  have fresh : (started text).dropStale = some (started text) := rfl
  have decided : (started text).isUndecided = false := rfl
  change ((started text).dropStale >>= fun s =>
    if s.isUndecided then s.fetch >>= settle fuel else pure (.streamStart, s)) = _
  rw [fresh, Option.bind_eq_bind, Option.bind_some, decided]
  rfl

theorem peek_ofText (text : String) :
    (ofText text).peek = some (.streamStart, started text) := by
  have fetched : (ofText text).fetch = some (started text) := rfl
  change ((ofText text).fetch >>= settle ((ofText text).cursor.left + 7)) = _
  rw [fetched, Option.bind_eq_bind, Option.bind_some, settle_started]

theorem placed_begun (text : String) : (begun text).Placed :=
  ⟨started text, .streamStart, ⟨rfl, rfl, by simp [started]⟩, rfl⟩

theorem at_begun (text : String) : (begun text).At 1 text.toList [] where
  started := rfl
  sized := by simp [Cursor.Sized, begun, Cursor.ofText, String.length_toList]
  rest := rfl
  queue := rfl
  depth := rfl
  optional := by simp [begun]
  indent := rfl
  outer := rfl

/-- The tokens of a value are handed out of its text, all of them unless a text in it is marked. -/
theorem offers_compact {j : Json} (textual : Textual j) :
    (begun j.compact).Offers (every isUnmarked isUnmarked j) (tokens j ++ [.streamEnd]) :=
  (finds_compact textual (at_begun _)).offers (placed_begun _)

end TokenStream

/-! ## The document -/

theorem skip_start (text : String) :
    ({ tokens := TokenStream.ofText text } : Reading).peek.2.skip =
      { tokens := TokenStream.begun text } := by
  simp only [Reading.peek, TokenStream.peek_ofText, Reading.skip]
  rfl

theorem Document.read_begins {text : String} (allowed : text.toList.all isAllowed = true)
    {r : Reading} {t : Token}
    (seen : ({ tokens := TokenStream.begun text } : Reading).peek = (some t, r))
    (begins : Begins t) :
    read text = ofReading (16 * (text.length + 4))
      (readNode (16 * (text.length + 4)) true false { r with handles := defaultHandles }).1
      (readNode (16 * (text.length + 4)) true false { r with handles := defaultHandles }).2 := by
  unfold read
  simp only [allowed, skip_start, seen]
  cases begins <;> rfl

/-- A document is whole if its value is read up to the end. -/
theorem Document.isWhole_ofReading {whole good : Bool} {result : Node × Reading} {n : Node}
    (read : Read whole good result n [.streamEnd]) (fuel : Nat) :
    (ofReading (fuel + 1) result.1 result.2).isWhole = (whole && good) ∧
      ((whole && good) = true → result.1 = n) := by
  rcases read with ⟨cut, because⟩ | ⟨same, later, rfl⟩
  · have broken : (whole && good) = false := by cases whole <;> simp_all
    simp [ofReading, cut, broken]
  · refine ⟨?_, fun _ => same⟩
    rcases later.peek with ⟨rfl, r, nothing, -⟩ | ⟨r, seen, next⟩
    · simp [ofReading, isAtEnd, nothing]
    · have complete : whole = true := next.rest
      simp [ofReading, isAtEnd, seen, later.uncut, complete]

/-- The text of a value is a whole document just if its characters are allowed, no text in it is
marked, and its names are keys. -/
theorem Document.read_compact {j : Json} (textual : Textual j) :
    (read j.compact).isWhole = (j.compact.toList.all isAllowed &&
      (every isUnmarked isUnmarked j && isKeyed j)) ∧
    ((read j.compact).isWhole = true → (read j.compact).root = node foldedText j) := by
  cases allowed : j.compact.toList.all isAllowed with
  | false => simp [read, allowed]
  | true =>
    obtain ⟨t, more, first, begins⟩ := begins_tokens textual
    have offers : ({ tokens := TokenStream.begun j.compact } : Reading).Offers
        (every isUnmarked isUnmarked j) (tokens j ++ [.streamEnd]) :=
      ⟨rfl, TokenStream.offers_compact textual⟩
    rw [first] at offers
    rcases offers.peek with ⟨broken, r, nothing, -⟩ | ⟨r, seen, next⟩
    · have cut : read j.compact = { root := .cut } := by simp [read, allowed, skip_start, nothing]
      simp [cut, broken]
    · -- The reader calls itself at most four times for a token.
      have enough : 4 * (tokens j).length ≤ 16 * (j.compact.length + 4) := by
        have few := length_tokens_le textual 0
        have same : (chars .compact 0 j).length = j.compact.length := by
          rw [Json.compact, String.length_ofList]
        omega
      have still : Reading.Offers (every isUnmarked isUnmarked j) (tokens j ++ [.streamEnd])
          { r with handles := defaultHandles } := by
        rw [first]
        exact ⟨next.uncut, next.offers.tokens⟩
      have result := readNode_value textual true false enough still
      have read := read_begins allowed seen begins
      obtain ⟨fuel, positive⟩ : ∃ n, 16 * (j.compact.length + 4) = n + 1 :=
        ⟨16 * (j.compact.length + 4) - 1, by omega⟩
      rw [positive] at result read
      obtain ⟨isWhole, root⟩ := isWhole_ofReading result fuel
      rw [read, isWhole, Bool.true_and]
      exact ⟨rfl, root⟩

end ProjectPicker.Yaml
