import ProjectPicker.Proofs.Json.Textual
import ProjectPicker.Proofs.Yaml.Marks

/-!
# JSON as tokens of YAML

* `tokens` : the tokens of a value in JSON;
* `Leads` : which tokens are found where some characters are passed;
* `leads_value` : the tokens of a value are found, unless a text in it is marked;
* `finds_compact` : so they are in the text of a value.
-/

set_option autoImplicit false

namespace ProjectPicker.Yaml

open Json (Textual every everyItem everyMember textChars quoteChars chars itemChars memberChars)

/-! ## Tokens -/

/-- Whether no line in the text looks like one between documents. -/
def isUnmarked (cs : List Char) : Bool := !isMarked false cs

def keyTokens (k : Json) : List Token := TokenStream.nameTokens (textChars k) ++ [.value]

mutual

def tokens : Json → List Token
  | .text s => [.scalar (folded (s.getD "").toList) false]
  | .array [] => [.flowSequenceStart, .flowSequenceEnd]
  | .array (j :: rest) => .flowSequenceStart :: tokens j ++ itemTokens rest ++ [.flowSequenceEnd]
  | .object [] => [.flowMappingStart, .flowMappingEnd]
  | .object ((k, v) :: rest) =>
    .flowMappingStart :: keyTokens k ++ tokens v ++ memberTokens rest ++ [.flowMappingEnd]
  | _ => []

def itemTokens : List Json → List Token
  | [] => []
  | j :: rest => .flowEntry :: tokens j ++ itemTokens rest

def memberTokens : List (Json × Json) → List Token
  | [] => []
  | (k, v) :: rest => .flowEntry :: keyTokens k ++ tokens v ++ memberTokens rest

end

namespace TokenStream

/-! ## Passing characters -/

section Leads

variable {whole : Bool} {all : List Token}

/-- Where the characters are passed, the tokens are found, if this is possible. -/
def Leads (whole : Bool) (all : List Token) (depth depth' : Nat) (cs : List Char)
    (found : List Token) (possible : Bool) : Prop :=
  ∀ (s : TokenStream) (rest : List Char) (queue : List Token), s.At depth (cs ++ rest) queue →
    queue ++ found <+: all → (possible = false → whole = false) →
      (possible = true → ∀ s', s'.At depth' rest (queue ++ found) → Finds whole s' all) →
        Finds whole s all

variable {d d' d'' : Nat} {cs cs' : List Char} {ts ts' : List Token} {p p' : Bool}

theorem Leads.append (first : Leads whole all d d' cs ts p)
    (second : Leads whole all d' d'' cs' ts' p') :
    Leads whole all d d'' (cs ++ cs') (ts ++ ts') (p && p') := by
  intro s rest queue h before broken next
  rw [List.append_assoc] at h
  rw [← List.append_assoc] at before
  refine first s _ queue h ((List.prefix_append _ ts').trans before)
    (fun no => broken (by simp [no])) ?_
  intro yes s' h'
  refine second s' rest _ h' before (fun no => broken (by simp [no])) fun yes' s'' h'' => ?_
  exact next (by simp [yes, yes']) s'' (List.append_assoc .. ▸ h'')

theorem leads_opening {x : Char} {t : Token} (opens : Opens x t) :
    Leads whole all (d + 1) (d + 2) [x] [t] true :=
  fun _ _ _ h _ _ next => finds_opening opens h fun s' h' _ => next rfl s' h'

theorem leads_closing {x : Char} {t : Token} (closes : Closes x t) :
    Leads whole all (d + 2) (d + 1) [x] [t] true :=
  fun _ _ _ h _ _ next => finds_closing closes h fun s' h' => next rfl s' h'

theorem leads_comma : Leads whole all (d + 1) (d + 1) [','] [.flowEntry] true :=
  fun _ _ _ h _ _ next => finds_comma h fun s' h' _ => next rfl s' h'

theorem leads_text (cs : List Char) :
    Leads whole all (d + 1) (d + 1) (quoteChars cs) [.scalar (folded cs) false]
      (isUnmarked cs) := by
  intro s rest queue h before broken next
  exact finds_text h (fun marked => ⟨broken (by simp [isUnmarked, marked]), before⟩) fun unmarked =>
    next (by simp [isUnmarked, unmarked])

/-- A key may begin behind this character. -/
def Allows (whole : Bool) (all : List Token) (d d' : Nat) (x : Char) (t : Token) : Prop :=
  ∀ (s : TokenStream) (rest : List Char) (queue : List Token), s.At d (x :: rest) queue →
    (∀ s', s'.At d' rest (queue ++ [t]) → s'.keyAllowed = true → Finds whole s' all) →
      Finds whole s all

theorem allows_opening {x : Char} {t : Token} (opens : Opens x t) :
    Allows whole all (d + 1) (d + 2) x t := fun _ _ _ h => finds_opening opens h

theorem allows_comma : Allows whole all (d + 1) (d + 1) ',' .flowEntry :=
  fun _ _ _ h => finds_comma h

/-- A name and its colon are passed where a key may begin. -/
theorem leads_name {x : Char} {t : Token} (allows : Allows whole all d (d' + 2) x t)
    (cs : List Char) : Leads whole all d (d' + 2) (x :: (quoteChars cs ++ [':']))
      (t :: (nameTokens cs ++ [.value])) (isUnmarked cs) := by
  intro s rest queue h first broken next
  have h₀ : s.At d (x :: (quoteChars cs ++ ':' :: rest)) queue := by simpa using h
  obtain ⟨missing, more, named⟩ : ∃ missing more, nameTokens cs ++ [.value] = missing :: more := by
    cases both : nameTokens cs ++ [.value] with
    | nil => simp at both
    | cons missing more => exact ⟨missing, more, rfl⟩
  have before : queue ++ [t] ++ [missing] <+: all := by
    rw [named, List.append_cons, List.append_cons] at first
    exact (List.prefix_append _ more).trans first
  refine allows s _ queue h₀ fun s₁ h₁ allowed => finds_name h₁ allowed
    (fun marked => ⟨broken (by simp [isUnmarked, marked]), before⟩) fun unmarked s' h' => ?_
  exact next (by simp [isUnmarked, unmarked]) s' (by simpa using h')

theorem leads_nil : Leads whole all d d [] [] true :=
  fun _ _ _ h _ _ next => next rfl _ (by simpa using h)

theorem newline_compact (k : Nat) : Json.Layout.compact.newline k = [] := rfl

theorem afterColon_compact : Json.Layout.compact.afterColon = [] := rfl

/-- The value is passed, unless a text in it is marked. -/
def Passes (whole : Bool) (all : List Token) (j : Json) : Prop :=
  ∀ d k, Leads whole all (d + 1) (d + 1) (chars .compact k j) (tokens j)
    (every isUnmarked isUnmarked j)

theorem leads_items (k : Nat) : ∀ {items : List Json}, (∀ j ∈ items, Passes whole all j) →
    Leads whole all (d + 1) (d + 1) (itemChars .compact k items) (itemTokens items)
      (everyItem isUnmarked isUnmarked items)
  | [], _ => leads_nil
  | j :: items, each => by
    obtain ⟨here, later⟩ := List.forall_mem_cons.1 each
    exact leads_comma.append ((here d k).append (leads_items k later))

theorem leads_members (k : Nat) : ∀ {members : List (String × Json)},
    (∀ m ∈ members, Passes whole all m.2) →
      Leads whole all (d + 2) (d + 2)
        (memberChars .compact k (members.map fun m => (.str m.1, m.2)))
        (memberTokens (members.map fun m => (.str m.1, m.2)))
        (everyMember isUnmarked isUnmarked (members.map fun m => (.str m.1, m.2)))
  | [], _ => leads_nil
  | (name, j) :: members, each => by
    obtain ⟨here, later⟩ := List.forall_mem_cons.1 each
    have first : Leads whole all (d + 2) (d + 2) _ _ _ := leads_name allows_comma name.toList
    have both := (first.append (here (d + 1) k)).append (leads_members k later)
    have written : memberChars .compact k (((name, j) :: members).map fun m => (.str m.1, m.2)) =
        ',' :: (quoteChars name.toList ++ [':']) ++ chars .compact k j ++
          memberChars .compact k (members.map fun m => (.str m.1, m.2)) := by
      simp [memberChars, chars, Json.str, newline_compact, afterColon_compact]
    rw [written]
    exact both

theorem leads_value {j : Json} (textual : Textual j) : Passes whole all j := by
  induction textual with
  | str s => exact fun d k => leads_text s.toList
  | @array items _ ih =>
    intro d k
    cases items with
    | nil => exact (leads_opening opens_sequence).append (leads_closing closes_sequence)
    | cons j items =>
      obtain ⟨here, later⟩ := List.forall_mem_cons.1 ih
      have inside := (here (d + 1) (k + 1)).append (leads_items (k + 1) later)
      have both := ((leads_opening opens_sequence).append inside).append
        (leads_closing closes_sequence)
      have written : chars .compact k (.array (j :: items)) = ['['] ++
          (chars .compact (k + 1) j ++ itemChars .compact (k + 1) items) ++ [']'] := by
        simp [chars, newline_compact]
      rw [Bool.and_true] at both
      rw [written]
      exact both
  | @record members _ ih =>
    intro d k
    cases members with
    | nil => exact (leads_opening opens_mapping).append (leads_closing closes_mapping)
    | cons m members =>
      obtain ⟨here, later⟩ := List.forall_mem_cons.1 ih
      -- A key may begin behind the brace, so the brace is passed together with the name.
      have first : Leads whole all (d + 1) (d + 2) _ _ _ :=
        leads_name (allows_opening opens_mapping) m.1.toList
      have inside := (first.append (here (d + 1) (k + 1))).append (leads_members (k + 1) later)
      have both := inside.append (leads_closing closes_mapping)
      have written : chars .compact k (.record (m :: members)) =
          '\x7b' :: (quoteChars m.1.toList ++ [':']) ++ chars .compact (k + 1) m.2 ++
            memberChars .compact (k + 1) (members.map fun m => (.str m.1, m.2)) ++ ['\x7d'] := by
        simp [chars, Json.record, Json.str, newline_compact, afterColon_compact]
      rw [Bool.and_true] at both
      rw [written]
      exact both

end Leads

/-- The tokens of a value are found in its text, unless a text in it is marked. -/
theorem finds_compact {j : Json} (textual : Textual j) {s : TokenStream}
    (h : s.At 1 j.compact.toList []) :
    Finds (every isUnmarked isUnmarked j) s (tokens j ++ [.streamEnd]) := by
  have text : j.compact.toList = chars .compact 0 j ++ [] := by
    rw [Json.compact, String.toList_ofList, List.append_nil]
  refine leads_value textual 0 0 s [] [] (text ▸ h) (List.prefix_append _ _) id
    fun whole s' h' => ?_
  exact finds_end h' whole rfl

end TokenStream

end ProjectPicker.Yaml
