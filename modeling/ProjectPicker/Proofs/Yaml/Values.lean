import ProjectPicker.Proofs.Yaml.Flow
import ProjectPicker.Yaml.Node.Reader

/-!
# JSON as values of YAML

* `node` : a value of JSON as a value of YAML;
* `Reading.Offers` : the tokens that are before a reading;
* `Read` : a value is read and the tokens after it are before the reading, or it is cut;
* `readNode_value` : the tokens of a value are read as its node, if its names are keys.
-/

set_option autoImplicit false

namespace ProjectPicker.Yaml

open Json (Textual every everyItem everyMember textChars)
open TokenStream (isKey nameTokens)

/-! ## Nodes -/

def foldedText (s : String) : String := String.ofList (folded s.toList)

mutual

/-- A value of JSON as a value of YAML, where a text becomes what `f` makes of it. -/
def node (f : String → String) : Json → Node
  | .text s => .scalar none (f (s.getD "")) false
  | .array items => .sequence none (itemNodes f items)
  | .object members => .mapping none (memberNodes f members)
  | _ => .cut

def itemNodes (f : String → String) : List Json → List Node
  | [] => []
  | j :: rest => node f j :: itemNodes f rest

def memberNodes (f : String → String) : List (Json × Json) → List (Node × Node)
  | [] => []
  | (k, v) :: rest => (node f k, node f v) :: memberNodes f rest

end

def isKeyed (j : Json) : Bool := every (fun _ => true) isKey j

/-! ## What is before a reading -/

variable {whole : Bool} {rest : List Token} {t : Token} {r : Reading}

namespace Reading

/-- These tokens are before the reading, all of them or as many as come before a place where none
is found. -/
structure Offers (whole : Bool) (tokens : List Token) (r : Reading) : Prop where
  uncut : r.isCut = false
  tokens : r.tokens.Offers whole tokens

/-- The token is the next one. -/
structure Next (whole : Bool) (t : Token) (rest : List Token) (r : Reading) : Prop where
  uncut : r.isCut = false
  here : r.tokens.peek = some (t, r.tokens)
  rest : r.tokens.skip.Offers whole rest

theorem Offers.count (h : r.Offers whole rest) : r.count.Offers whole rest := ⟨h.uncut, h.tokens⟩

theorem Next.count (h : r.Next whole t rest) : r.count.Next whole t rest :=
  ⟨h.uncut, h.here, h.rest⟩

theorem Next.skip (h : r.Next whole t rest) : r.skip.Offers whole rest := ⟨h.uncut, h.rest⟩

theorem Next.peek (h : r.Next whole t rest) : r.peek = (some t, r) := by
  rw [Reading.peek, if_neg (by simp [h.uncut]), h.here]

theorem Next.offers (h : r.Next whole t rest) : r.Offers whole (t :: rest) :=
  ⟨h.uncut, .inr ⟨r.tokens, h.here, h.here, h.rest⟩⟩

theorem Offers.peek (h : r.Offers whole (t :: rest)) :
    (whole = false ∧ ∃ r', r.peek = (none, r') ∧ r'.isCut = true) ∨
      ∃ r', r.peek = (some t, r') ∧ r'.Next whole t rest := by
  rcases h.tokens with ⟨broken, nothing⟩ | ⟨s, seen, again, after⟩
  · exact .inl ⟨broken, { r with isCut := true }, by simp [Reading.peek, h.uncut, nothing], rfl⟩
  · exact .inr ⟨{ r with tokens := s }, by simp [Reading.peek, h.uncut, seen], h.uncut, again,
      after⟩

theorem peek_cut (h : r.isCut = true) : r.peek = (none, r) := by simp [Reading.peek, h]

end Reading

/-- The value is read up to these tokens, or the reading is cut; it is only cut if not all tokens
are there or the value is not `good`. -/
def Read {α : Type} (whole good : Bool) (result : α × Reading) (a : α) (rest : List Token) : Prop :=
  (result.2.isCut = true ∧ (whole = true → good = false)) ∨
    (result.1 = a ∧ result.2.Offers whole rest ∧ good = true)

/-! ## Once it is cut -/

section Cut

variable (fuel : Nat) (h : r.isCut = true)

include h

theorem readFlowItem_cut : (readFlowItem fuel r).2.isCut = true := by
  cases fuel <;> simp [readFlowItem, Reading.peek_cut h, Reading.cut, h]

theorem readFlowItems_cut (first : Bool) : (readFlowItems fuel first r).2.isCut = true := by
  cases fuel with
  | zero => rfl
  | succ fuel =>
    cases first <;> simp [readFlowItems, Reading.peek_cut h, Reading.cut, readFlowItem_cut, h]

theorem readFlowKey_cut : (readFlowKey fuel r).2.isCut = true := by
  cases fuel <;> simp [readFlowKey, Reading.peek_cut h, Reading.cut, h]

theorem readFlowValue_cut (key : Node) : (readFlowValue fuel key r).2.isCut = true := by
  cases fuel <;> simp [readFlowValue, Reading.peek_cut h, Reading.cut, h]

theorem readFlowEntries_cut (first : Bool) : (readFlowEntries fuel first r).2.isCut = true := by
  cases fuel with
  | zero => rfl
  | succ fuel =>
    cases first <;> simp [readFlowEntries, Reading.peek_cut h, Reading.cut, readFlowKey_cut, h]

end Cut

/-! ## Values -/

/-- The tokens that a value begins with. -/
inductive Begins : Token → Prop
  | scalar (cs : List Char) : Begins (.scalar cs false)
  | sequence : Begins .flowSequenceStart
  | mapping : Begins .flowMappingStart

theorem begins_tokens {j : Json} (textual : Textual j) :
    ∃ t more, tokens j = t :: more ∧ Begins t := by
  cases textual with
  | str s => exact ⟨_, _, rfl, .scalar _⟩
  | @array items => cases items <;> exact ⟨_, _, rfl, .sequence⟩
  | @record members => cases members <;> exact ⟨_, _, rfl, .mapping⟩

theorem readNode_begins (next : r.Next whole t rest) (begins : Begins t) (fuel : Nat)
    (block indentless : Bool) {r₀ : Reading} (seen : r₀.peek = (some t, r)) :
    readNode (fuel + 1) block indentless r₀ = readContent fuel block indentless none none r := by
  cases begins <;> simp [readNode, readProperties, seen, next.peek]

/-- Further values are read after a first. -/
theorem Read.append {α β γ : Type} {good good' : Bool} {x : α × Reading} {a : α}
    {middle : List Token} {f : Reading → β × Reading} {b : β} (first : Read whole good x a middle)
    (others : ∀ r, r.Offers whole middle → Read whole good' (f r) b rest)
    (stays : ∀ r, r.isCut = true → (f r).2.isCut = true) (g : α → β → γ) :
    Read whole (good && good') (g x.1 (f x.2).1, (f x.2).2) (g a b) rest := by
  rcases first with ⟨cut, because⟩ | ⟨rfl, offers, rfl⟩
  · exact .inl ⟨stays _ cut, fun complete => by simp [because complete]⟩
  · rcases others x.2 offers with ⟨cut, because⟩ | ⟨rfl, offers', rfl⟩
    · exact .inl ⟨cut, because⟩
    · exact .inr ⟨rfl, offers', rfl⟩

def Reads (whole : Bool) (j : Json) : Prop :=
  ∀ {fuel : Nat} {r : Reading} {rest : List Token} (block indentless : Bool),
    4 * (tokens j).length ≤ fuel → r.Offers whole (tokens j ++ rest) →
      Read whole (isKeyed j) (readNode fuel block indentless r) (node foldedText j) rest

theorem Read.map {α β : Type} {good : Bool} {x : α × Reading} {a : α} (h : Read whole good x a rest)
    (g : α → β) : Read whole good (g x.1, x.2) (g a) rest :=
  h.imp id fun ⟨same, later⟩ => ⟨congrArg g same, later⟩

theorem Read.stuck {α : Type} {good : Bool} {result : α × Reading} {a : α} (broken : whole = false)
    (cut : result.2.isCut = true) : Read whole good result a rest :=
  .inl ⟨cut, fun complete => by simp [broken] at complete⟩

theorem reads_text (s : String) : Reads whole (.str s) := by
  intro fuel r rest block indentless enough offers
  obtain ⟨fuel, rfl⟩ : ∃ n, fuel = n + 2 := ⟨fuel - 2, by simp [tokens, Json.str] at enough; omega⟩
  rcases offers.peek with ⟨broken, r', nothing, cut⟩ | ⟨r', seen, next⟩
  · exact .stuck broken (by simp [readNode, nothing, cut])
  · rw [readNode_begins next (.scalar _) _ _ _ seen]
    refine .inr ⟨?_, ?_, rfl⟩
    · simp [readContent, next.peek, scalarTag, node, foldedText, Json.str]
    · simpa [readContent, next.peek, Reading.beginNode, Reading.keep] using next.skip.count

/-! ### Items -/

section Items

variable {items : List Json} {j : Json} {fuel : Nat}

theorem read_item (reads : Reads whole j) (textual : Textual j)
    (enough : 4 * (tokens j).length ≤ fuel) {good : Bool}
    (others : ∀ r : Reading, r.Offers whole (itemTokens items ++ .flowSequenceEnd :: rest) →
      Read whole good (readFlowItems fuel false r) (itemNodes foldedText items) rest)
    (offers : r.Offers whole (tokens j ++ (itemTokens items ++ .flowSequenceEnd :: rest))) :
    Read whole (isKeyed j && good) (readFlowItem (fuel + 1) r)
      (itemNodes foldedText (j :: items)) rest := by
  obtain ⟨t, more, first, begins⟩ := begins_tokens textual
  rw [first] at offers
  rcases offers.peek with ⟨broken, r', nothing, cut⟩ | ⟨r', seen, next⟩
  · exact .stuck broken (by simp [readFlowItem, nothing, cut])
  · have one := reads false false enough (by rw [first]; exact next.offers)
    have both := one.append others (fun r cut => readFlowItems_cut fuel cut false) List.cons
    have read : readFlowItem (fuel + 1) r =
        ((readNode fuel false false r').1 ::
          (readFlowItems fuel false (readNode fuel false false r').2).1,
          (readFlowItems fuel false (readNode fuel false false r').2).2) := by
      cases begins <;> simp [readFlowItem, seen]
    rw [read]
    exact both

theorem read_items : ∀ {items : List Json} {fuel : Nat} {r : Reading},
    (∀ j ∈ items, Reads whole j ∧ Textual j) → 4 * (itemTokens items).length + 1 ≤ fuel →
      r.Offers whole (itemTokens items ++ .flowSequenceEnd :: rest) →
        Read whole (everyItem (fun _ => true) isKey items) (readFlowItems fuel false r)
          (itemNodes foldedText items) rest
  | _, 0, _, _, enough, _ => by omega
  | [], fuel + 1, r, _, _, offers => by
    rcases offers.peek with ⟨broken, r', nothing, cut⟩ | ⟨r', seen, next⟩
    · exact .stuck broken (by simp [readFlowItems, nothing, Reading.cut])
    · refine .inr ⟨by simp [readFlowItems, seen, itemNodes], ?_, rfl⟩
      simpa [readFlowItems, seen] using next.skip.count
  | j :: items, fuel + 1, r, each, enough, offers => by
    obtain ⟨⟨reads, textual⟩, later⟩ := List.forall_mem_cons.1 each
    simp only [itemTokens, List.length_append, List.length_cons] at enough
    obtain ⟨fuel, rfl⟩ : ∃ n, fuel = n + 1 := ⟨fuel - 1, by omega⟩
    simp only [itemTokens, List.cons_append, List.append_assoc] at offers
    rcases offers.peek with ⟨broken, r', nothing, cut⟩ | ⟨r', seen, next⟩
    · exact .stuck broken (by simp [readFlowItems, nothing, Reading.cut])
    · have read : readFlowItems (fuel + 2) false r = readFlowItem (fuel + 1) r'.skip := by
        simp [readFlowItems, seen]
      rw [read]
      exact read_item reads textual (by omega)
        (fun r offers => read_items later (by omega) offers) next.skip

/-- The items of an array are read after its opening bracket. -/
theorem read_items_first (each : ∀ j ∈ items, Reads whole j ∧ Textual j) {inside : List Token}
    (begun : tokens (.array items) = .flowSequenceStart :: inside)
    (enough : 4 * inside.length ≤ fuel) (offers : r.Offers whole (inside ++ rest)) :
    Read whole (everyItem (fun _ => true) isKey items) (readFlowItems (fuel + 2) true r)
      (itemNodes foldedText items) rest := by
  cases items with
  | nil =>
    obtain rfl := (List.cons.inj begun).2
    rcases offers.peek with ⟨broken, r', nothing, cut⟩ | ⟨r', seen, next⟩
    · exact .stuck broken (by simp [readFlowItems, readFlowItem_cut, nothing, cut])
    · refine .inr ⟨by simp [readFlowItems, seen, itemNodes], ?_, rfl⟩
      simpa [readFlowItems, seen] using next.skip.count
  | cons j items =>
    obtain ⟨⟨reads, textual⟩, later⟩ := List.forall_mem_cons.1 each
    obtain rfl := (List.cons.inj begun).2
    simp only [List.append_eq, List.append_assoc, List.singleton_append, List.length_append,
      List.length_cons] at enough offers
    obtain ⟨t, more, first, begins⟩ := begins_tokens textual
    rw [first] at offers
    rcases offers.peek with ⟨broken, r', nothing, cut⟩ | ⟨r', seen, next⟩
    · exact .stuck broken (by simp [readFlowItems, readFlowItem_cut, nothing, cut])
    · have read : readFlowItems (fuel + 2) true r = readFlowItem (fuel + 1) r' := by
        cases begins <;> simp [readFlowItems, seen]
      rw [read]
      exact read_item reads textual (by omega)
        (fun r offers => read_items later (by omega) offers) (by rw [first]; exact next.offers)

theorem reads_array (each : ∀ j ∈ items, Reads whole j ∧ Textual j) :
    Reads whole (.array items) := by
  intro fuel r rest block indentless enough offers
  obtain ⟨inside, begun⟩ : ∃ inside, tokens (.array items) = .flowSequenceStart :: inside := by
    cases items <;> exact ⟨_, rfl⟩
  rw [begun] at offers enough
  obtain ⟨fuel, rfl⟩ : ∃ n, fuel = n + 4 := ⟨fuel - 4, by rw [List.length_cons] at enough; omega⟩
  rcases offers.peek with ⟨broken, r', nothing, cut⟩ | ⟨r', seen, next⟩
  · exact .stuck broken (by simp [readNode, nothing, cut])
  · have read : readNode (fuel + 4) block indentless r =
        (.sequence none (readFlowItems (fuel + 2) true r'.skip.count).1,
          (readFlowItems (fuel + 2) true r'.skip.count).2) := by
      rw [readNode_begins next .sequence _ _ _ seen]
      simp [readContent, next.peek, Reading.beginNode, Reading.keep]
    rw [read]
    exact (read_items_first each begun (by rw [List.length_cons] at enough; omega)
      next.skip.count).map (Node.sequence none)

end Items

/-! ### Members -/

section Members

variable {members : List (Json × Json)} {k v : Json} {fuel : Nat}

theorem read_value (reads : Reads whole v) (textual : Textual v)
    (enough : 4 * (tokens v).length ≤ fuel) {good : Bool}
    (others : ∀ r : Reading, r.Offers whole (memberTokens members ++ .flowMappingEnd :: rest) →
      Read whole good (readFlowEntries fuel false r) (memberNodes foldedText members) rest)
    (offers : r.Offers whole (.value :: (tokens v ++
      (memberTokens members ++ .flowMappingEnd :: rest)))) (key : Node) :
    Read whole (isKeyed v && good) (readFlowValue (fuel + 1) key r)
      ((key, node foldedText v) :: memberNodes foldedText members) rest := by
  obtain ⟨t, more, first, begins⟩ := begins_tokens textual
  rcases offers.peek with ⟨broken, r₁, nothing, cut⟩ | ⟨r₁, colon, next⟩
  · exact .stuck broken (by simp [readFlowValue, nothing, cut])
  have inside := next.skip
  rw [first] at inside
  rcases inside.peek with ⟨broken, r₂, nothing, cut⟩ | ⟨r₂, seen, next⟩
  · exact .stuck broken (by simp [readFlowValue, colon, nothing, cut])
  have one := reads false false enough (by rw [first]; exact next.offers)
  have both := one.append others (fun r cut => readFlowEntries_cut fuel cut false)
    fun n entries => (key, n) :: entries
  have read : readFlowValue (fuel + 1) key r =
      ((key, (readNode fuel false false r₂).1) ::
        (readFlowEntries fuel false (readNode fuel false false r₂).2).1,
        (readFlowEntries fuel false (readNode fuel false false r₂).2).2) := by
    cases begins <;> simp [readFlowValue, colon, seen]
  rw [read]
  exact both

/-- A text that is no key has no value, and the colon after it fits nowhere. -/
theorem read_unkeyed {name : String} (unkeyed : isKey name.toList = false) (enough : 4 ≤ fuel)
    {more : List Token} (offers : r.Offers whole (keyTokens (.str name) ++ more)) :
    (readFlowKey (fuel + 1) r).2.isCut = true := by
  have bare : keyTokens (.str name) ++ more = tokens (.str name) ++ .value :: more := by
    simp [keyTokens, nameTokens, textChars, Json.str, unkeyed, tokens]
  rw [bare] at offers
  rcases offers.peek with ⟨-, r₁, nothing, cut⟩ | ⟨r₁, seen, next⟩
  · simp [readFlowKey, nothing, cut]
  rcases reads_text name false false enough next.offers with ⟨cut, -⟩ | ⟨-, later, -⟩
  · simp [readFlowKey, seen, Reading.peek_cut cut, cut]
  rcases later.peek with ⟨-, r₂, nothing, cut⟩ | ⟨r₂, colon, next⟩
  · simp [readFlowKey, seen, nothing, cut]
  -- The text was read as a member without a value, so a comma or the brace would have to follow.
  have misplaced : (readFlowEntries fuel false r₂.count).2.isCut = true := by
    cases fuel <;> simp [readFlowEntries, next.count.peek, Reading.cut]
  simp [readFlowKey, seen, colon, readNothing, misplaced]

theorem read_member (name : String) (reads : Reads whole v) (textual : Textual v)
    (enough : 4 * (tokens v).length ≤ fuel) {good : Bool}
    (others : ∀ r : Reading, r.Offers whole (memberTokens members ++ .flowMappingEnd :: rest) →
      Read whole good (readFlowEntries fuel false r) (memberNodes foldedText members) rest)
    (offers : r.Offers whole (keyTokens (.str name) ++ (tokens v ++
      (memberTokens members ++ .flowMappingEnd :: rest)))) :
    Read whole (isKey name.toList && isKeyed v && good) (readFlowKey (fuel + 2) r)
      (memberNodes foldedText ((.str name, v) :: members)) rest := by
  have four : 4 ≤ fuel + 1 := by
    obtain ⟨t, more, first, -⟩ := begins_tokens textual
    rw [first, List.length_cons] at enough
    omega
  cases keyed : isKey name.toList with
  | false => exact .inl ⟨read_unkeyed keyed four offers, fun _ => rfl⟩
  | true =>
    have marked : keyTokens (.str name) = .key :: (tokens (.str name) ++ [.value]) := by
      simp [keyTokens, nameTokens, textChars, Json.str, keyed, tokens]
    rw [marked, List.cons_append, List.append_assoc] at offers
    rcases offers.peek with ⟨broken, r₁, nothing, cut⟩ | ⟨r₁, key, next⟩
    · exact .stuck broken (by simp [readFlowKey, nothing, cut])
    rcases next.skip.peek with ⟨broken, r₂, nothing, cut⟩ | ⟨r₂, seen, next⟩
    · exact .stuck broken (by simp [readFlowKey, key, nothing, cut])
    have read : readFlowKey (fuel + 2) r = readFlowValue (fuel + 1)
        (readNode (fuel + 1) false false r₂).1 (readNode (fuel + 1) false false r₂).2 := by
      simp [readFlowKey, key, seen, endsFlowEntry]
    rw [read]
    rcases reads_text name false false four next.offers with ⟨cut, because⟩ | ⟨same, later, -⟩
    · exact .inl ⟨readFlowValue_cut _ cut _, fun complete => by cases because complete⟩
    · rw [same]
      exact read_value reads textual enough others later _

theorem read_members : ∀ {members : List (String × Json)} {fuel : Nat} {r : Reading},
    (∀ m ∈ members, Reads whole m.2 ∧ Textual m.2) →
      4 * (memberTokens (members.map fun m => (.str m.1, m.2))).length + 1 ≤ fuel →
        r.Offers whole (memberTokens (members.map fun m => (.str m.1, m.2)) ++
          .flowMappingEnd :: rest) →
          Read whole (everyMember (fun _ => true) isKey (members.map fun m => (.str m.1, m.2)))
            (readFlowEntries fuel false r)
            (memberNodes foldedText (members.map fun m => (.str m.1, m.2))) rest
  | _, 0, _, _, enough, _ => by omega
  | [], fuel + 1, r, _, _, offers => by
    rcases offers.peek with ⟨broken, r', nothing, cut⟩ | ⟨r', seen, next⟩
    · exact .stuck broken (by simp [readFlowEntries, nothing, Reading.cut])
    · refine .inr ⟨by simp [readFlowEntries, seen, memberNodes], ?_, rfl⟩
      simpa [readFlowEntries, seen] using next.skip.count
  | (name, v) :: members, fuel + 1, r, each, enough, offers => by
    obtain ⟨⟨reads, textual⟩, later⟩ := List.forall_mem_cons.1 each
    dsimp only at reads textual
    simp only [List.map_cons, memberTokens, List.length_append, List.length_cons] at enough
    obtain ⟨fuel, rfl⟩ : ∃ n, fuel = n + 2 := ⟨fuel - 2, by omega⟩
    simp only [List.map_cons, memberTokens, List.cons_append, List.append_assoc] at offers
    rcases offers.peek with ⟨broken, r', nothing, cut⟩ | ⟨r', seen, next⟩
    · exact .stuck broken (by simp [readFlowEntries, nothing, Reading.cut])
    · have read : readFlowEntries (fuel + 3) false r = readFlowKey (fuel + 2) r'.skip := by
        simp [readFlowEntries, seen]
      rw [read]
      exact read_member name reads textual (by omega)
        (fun r offers => read_members later (by omega) offers) next.skip

theorem begins_keyTokens (name : String) :
    ∃ t more, keyTokens (.str name) = t :: more ∧ (t = .key ∨ ∃ cs, t = .scalar cs false) := by
  unfold keyTokens nameTokens
  split
  · exact ⟨_, _, rfl, .inl rfl⟩
  · exact ⟨_, _, rfl, .inr ⟨_, rfl⟩⟩

/-- The members of an object are read after its opening bracket. -/
theorem read_members_first {members : List (String × Json)}
    (each : ∀ m ∈ members, Reads whole m.2 ∧ Textual m.2) {inside : List Token}
    (begun : tokens (.record members) = .flowMappingStart :: inside)
    (enough : 4 * inside.length ≤ fuel) (offers : r.Offers whole (inside ++ rest)) :
    Read whole (everyMember (fun _ => true) isKey (members.map fun m => (.str m.1, m.2)))
      (readFlowEntries (fuel + 2) true r)
      (memberNodes foldedText (members.map fun m => (.str m.1, m.2))) rest := by
  cases members with
  | nil =>
    obtain rfl := (List.cons.inj begun).2
    rcases offers.peek with ⟨broken, r', nothing, cut⟩ | ⟨r', seen, next⟩
    · exact .stuck broken (by simp [readFlowEntries, readFlowKey_cut, nothing, cut])
    · refine .inr ⟨by simp [readFlowEntries, seen, memberNodes], ?_, rfl⟩
      simpa [readFlowEntries, seen] using next.skip.count
  | cons m members =>
    obtain ⟨⟨reads, textual⟩, later⟩ := List.forall_mem_cons.1 each
    obtain rfl := (List.cons.inj begun).2
    simp only [List.append_eq, List.append_assoc, List.singleton_append, List.length_append,
      List.length_cons] at enough offers
    obtain ⟨fuel, rfl⟩ : ∃ n, fuel = n + 1 := ⟨fuel - 1, by omega⟩
    obtain ⟨t, more, first, begins⟩ := begins_keyTokens m.1
    rw [first] at offers
    rcases offers.peek with ⟨broken, r', nothing, cut⟩ | ⟨r', seen, next⟩
    · exact .stuck broken (by simp [readFlowEntries, readFlowKey_cut, nothing, cut])
    · have read : readFlowEntries (fuel + 3) true r = readFlowKey (fuel + 2) r' := by
        rcases begins with rfl | ⟨cs, rfl⟩ <;> simp [readFlowEntries, seen]
      rw [read]
      exact read_member m.1 reads textual (by omega)
        (fun r offers => read_members later (by omega) offers) (by rw [first]; exact next.offers)

theorem reads_record {members : List (String × Json)}
    (each : ∀ m ∈ members, Reads whole m.2 ∧ Textual m.2) : Reads whole (.record members) := by
  intro fuel r rest block indentless enough offers
  obtain ⟨inside, begun⟩ : ∃ inside, tokens (.record members) = .flowMappingStart :: inside := by
    cases members <;> exact ⟨_, rfl⟩
  rw [begun] at offers enough
  obtain ⟨fuel, rfl⟩ : ∃ n, fuel = n + 4 := ⟨fuel - 4, by rw [List.length_cons] at enough; omega⟩
  rcases offers.peek with ⟨broken, r', nothing, cut⟩ | ⟨r', seen, next⟩
  · exact .stuck broken (by simp [readNode, nothing, cut])
  · have read : readNode (fuel + 4) block indentless r =
        (.mapping none (readFlowEntries (fuel + 2) true r'.skip.count).1,
          (readFlowEntries (fuel + 2) true r'.skip.count).2) := by
      rw [readNode_begins next .mapping _ _ _ seen]
      simp [readContent, next.peek, Reading.beginNode, Reading.keep]
    rw [read]
    exact (read_members_first each begun (by rw [List.length_cons] at enough; omega)
      next.skip.count).map (Node.mapping none)

end Members

theorem readNode_value {j : Json} (textual : Textual j) : Reads whole j := by
  induction textual with
  | str s => exact reads_text s
  | array plain ih => exact reads_array fun j member => ⟨ih j member, plain j member⟩
  | record plain ih => exact reads_record fun m member => ⟨ih m member, plain m member⟩

end ProjectPicker.Yaml
