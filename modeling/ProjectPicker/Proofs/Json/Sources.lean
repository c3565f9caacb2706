import ProjectPicker.Proofs.Form
import ProjectPicker.Proofs.Json.Record

/-!
# Which objects are sources

* `toText_eq_ok_iff`, `texts_eq_ok_iff` : only a text is read as a text, and only a list of texts as
  one;
* `Parameters.decode_eq_ok_iff`, `lookup_ofEntries` : parameters are read from an object of texts,
  in which the last value of a name counts;
* `SourceLocation.Conforms`, `SourceLocation.Given` : the objects that are sources, and what their
  members say about the source;
* `SourceLocation.decode_eq_ok_iff` : they are read, and as what they say.
-/

set_option autoImplicit false

namespace ProjectPicker

open Json (Complete Once Holds RecordReader bind_eq_ok_iff)

variable {members : List (String × Json)} {name : String} {j : Json}

/-! ## Texts -/

namespace Json

theorem str_inj {s s' : String} : Json.str s = .str s' ↔ s = s' := by
  simp [str]

theorem toText_eq_ok_iff {s : String} : toText j = .ok s ↔ j = .str s := by
  unfold toText str
  split <;> simp_all

theorem toName_eq_ok_iff {s : String} : toName j = .ok s ↔ j = .str s := by
  unfold toName str
  split <;> simp_all

theorem strings_inj {ss ss' : List String} : Json.strings ss = .strings ss' ↔ ss = ss' := by
  rw [strings, strings, Json.array.injEq]
  exact (List.map_injective_iff.2 fun _ _ => str_inj.1).eq_iff

theorem mapM_toText_eq_ok_iff {items : List Json} {ss : List String} :
    items.mapM toText = .ok ss ↔ items = ss.map str := by
  induction items generalizing ss with
  | nil => cases ss <;> simp [pure, Except.pure]
  | cons j items ih =>
    rw [List.mapM_cons]
    simp only [bind_eq_ok_iff, toText_eq_ok_iff, ih]
    cases ss <;> simp [pure, Except.pure]

theorem texts_eq_ok_iff {ss : List String} : form.texts j = .ok ss ↔ j = .strings ss := by
  have items : ∀ items, toItems j = .ok items ↔ j = .array items := by
    intro items
    unfold toItems
    split <;> simp_all
  change (toItems j >>= fun items => items.mapM toText) = .ok ss ↔ _
  simp only [bind_eq_ok_iff, items, mapM_toText_eq_ok_iff]
  simp [strings]

theorem record_inj {ms ms' : List (String × Json)} : Json.record ms = .record ms' ↔ ms = ms' := by
  rw [record, record, Json.object.injEq]
  refine (List.map_injective_iff.2 fun m m' same => ?_).eq_iff
  obtain ⟨names, values⟩ := Prod.mk.inj same
  exact Prod.ext (str_inj.1 names) values

end Json

/-! ## Parameters -/

namespace Parameters

variable {p q : Parameters} {ps : List (String × String)}

def dictionary (ps : List (String × String)) : Json := .record (ps.map fun e => (e.1, .str e.2))

theorem dictionary_inj {ps ps' : List (String × String)} :
    dictionary ps = dictionary ps' ↔ ps = ps' := by
  rw [dictionary, dictionary, Json.record_inj]
  refine (List.map_injective_iff.2 fun e e' same => ?_).eq_iff
  obtain ⟨names, values⟩ := Prod.mk.inj same
  exact Prod.ext names (Json.str_inj.1 values)

/-- Objects of texts in which the last value of each name is the same. -/
def SameDictionary (j j' : Json) : Prop :=
  ∃ ps ps', j = dictionary ps ∧ j' = dictionary ps' ∧
    ∀ x, ps.reverse.lookup x = ps'.reverse.lookup x

theorem SameDictionary.symm {j j' : Json} : SameDictionary j j' → SameDictionary j' j :=
  fun ⟨ps, ps', left, right, values⟩ => ⟨ps', ps, right, left, fun x => (values x).symm⟩

def ofEntries (ps : List (String × String)) : Parameters :=
  ps.foldl (fun p e => p.insert e.1 e.2) .empty

theorem foldlM_insert_eq_ok_iff {entries : List (Json × Json)} :
    entries.foldlM (fun p (e : Json × Json) => do
        let name ← Json.form.fieldName e.1
        let text ← Json.form.text e.2
        return p.insert name text) p = .ok q ↔
      ∃ ps : List (String × String), entries = ps.map (fun e => (.str e.1, .str e.2)) ∧
        ps.foldl (fun p e => p.insert e.1 e.2) p = q := by
  induction entries generalizing p with
  | nil =>
    constructor
    · exact fun read => ⟨[], rfl, Except.ok.inj read⟩
    · rintro ⟨_ | _, same, rfl⟩
      · rfl
      · cases same
  | cons e entries ih =>
    obtain ⟨key, value⟩ := e
    have field : Json.form.fieldName = Json.toName := rfl
    have text : Json.form.text = Json.toText := rfl
    rw [List.foldlM_cons]
    simp only [field, text, bind_assoc, pure_bind, bind_eq_ok_iff, Json.toName_eq_ok_iff,
      Json.toText_eq_ok_iff] at ih ⊢
    constructor
    · rintro ⟨name, rfl, value, rfl, read⟩
      obtain ⟨ps, rfl, rfl⟩ := ih.1 read
      exact ⟨(name, value) :: ps, rfl, rfl⟩
    · rintro ⟨_ | ⟨⟨name, value⟩, ps⟩, same, rfl⟩
      · cases same
      · obtain ⟨first, rfl⟩ := List.cons.inj same
        obtain ⟨rfl, rfl⟩ := Prod.mk.inj first
        exact ⟨name, rfl, value, rfl, ih.2 ⟨ps, rfl, rfl⟩⟩

theorem decode_eq_ok_iff :
    Parameters.decode Json.form j = .ok p ↔ ∃ ps, j = dictionary ps ∧ ofEntries ps = p := by
  have entries : ∀ es, Json.form.entries j = .ok es ↔ j = .object es := by
    intro es
    change Json.toEntries j = .ok es ↔ _
    unfold Json.toEntries
    split <;> simp_all
  rw [Parameters.decode]
  simp only [bind_eq_ok_iff, entries]
  constructor
  · rintro ⟨es, rfl, read⟩
    obtain ⟨ps, rfl, made⟩ := foldlM_insert_eq_ok_iff.1 read
    exact ⟨ps, by simp [dictionary, Json.record], made⟩
  · rintro ⟨ps, rfl, made⟩
    refine ⟨_, rfl, foldlM_insert_eq_ok_iff.2 ⟨ps, ?_, made⟩⟩
    rw [List.map_map]
    rfl

theorem lookup_cons (name value x : String) (entries : List (String × String)) :
    ((name, value) :: entries).lookup x = if x = name then some value else entries.lookup x := by
  by_cases same : x = name
  · simp [same]
  · rw [List.lookup_cons, beq_false_of_ne same, if_neg same]

theorem lookup_insertEntry (name value x : String) (entries : List (String × String)) :
    (insertEntry name value entries).lookup x =
      if x = name then some value else entries.lookup x := by
  induction entries with
  | nil => exact lookup_cons name value x []
  | cons e entries ih =>
    obtain ⟨key, other⟩ := e
    unfold insertEntry
    by_cases first : name < key
    · rw [if_pos first, lookup_cons]
    · by_cases later : key < name
      · rw [if_neg first, if_pos later, lookup_cons, ih, lookup_cons]
        have apart : name ≠ key := fun same => String.lt_irrefl _ (same ▸ later)
        by_cases here : x = name
        · subst here
          simp [apart]
        · simp [here]
      · obtain rfl : name = key :=
          String.le_antisymm (String.not_lt.1 later) (String.not_lt.1 first)
        rw [if_neg first, if_neg later]
        simp only [lookup_cons]
        split_ifs <;> rfl

theorem lookup_foldl_insert (p : Parameters) (ps : List (String × String)) (x : String) :
    (ps.foldl (fun p e => p.insert e.1 e.2) p).entries.lookup x =
      (ps.reverse.lookup x).or (p.entries.lookup x) := by
  induction ps generalizing p with
  | nil => rfl
  | cons e ps ih =>
    rw [List.foldl_cons, ih, insert, lookup_insertEntry, List.reverse_cons, List.lookup_append,
      Option.or_assoc, lookup_cons]
    congr 1
    split_ifs <;> rfl

/-- The last value of a name counts. -/
theorem lookup_ofEntries (ps : List (String × String)) (x : String) :
    (ofEntries ps).entries.lookup x = ps.reverse.lookup x := by
  rw [ofEntries, lookup_foldl_insert]
  exact Option.or_none

/-- In increasing order a name has one value. -/
theorem mem_iff_lookup {entries : List (String × String)} (increasing : Increasing entries)
    (e : String × String) : e ∈ entries ↔ entries.lookup e.1 = some e.2 := by
  rw [List.lookup_eq_some_iff]
  constructor
  · intro member
    obtain ⟨before, after, rfl⟩ := List.append_of_mem member
    refine ⟨before, after, rfl, fun earlier h => ?_⟩
    have less : earlier.1 < e.1 := (List.pairwise_append.1 increasing).2.2 earlier h e (by simp)
    exact bne_iff_ne.2 fun same => String.lt_irrefl _ (same ▸ less)
  · rintro ⟨before, after, rfl, -⟩
    simp

/-- Parameters are told by the value of each name. -/
theorem eq_of_lookup (h : ∀ x, p.entries.lookup x = q.entries.lookup x) : p = q := by
  have distinct : ∀ p : Parameters, p.entries.Nodup := by
    refine fun p => p.increasing.imp ?_
    intro a b before same
    exact String.lt_irrefl _ (same ▸ before)
  refine eq_of_perm ((List.perm_ext_iff_of_nodup (distinct p) (distinct q)).2 fun e => ?_)
  rw [mem_iff_lookup p.increasing, mem_iff_lookup q.increasing, h]

end Parameters

/-! ## Sources -/

namespace SourceLocation

variable {s s' : SourceLocation}

/-- The fields of a source. -/
inductive Field where
  | kind
  | location
  | parameters
  deriving DecidableEq

abbrev Field.Value : Field → Type
  | .kind | .location => String
  | .parameters => Parameters

def Met.equiv : Met ≃ ∀ i, Option (Field.Value i) where
  toFun met
    | .kind => met.kind
    | .location => met.location
    | .parameters => met.parameters
  invFun f := { kind := f .kind, location := f .location, parameters := f .parameters }
  left_inv _ := rfl
  right_inv f := by
    funext i
    cases i <;> rfl

def reader : RecordReader Met Field Field.Value where
  name
    | .kind => "type"
    | .location => "location"
    | .parameters => "parameters"
  distinct i i' h := by cases i <;> cases i' <;> first | rfl | (revert h; decide)
  read
    | .kind | .location => Json.toText
    | .parameters => Parameters.decode Json.form
  met := Met.equiv
  meet := meet Json.form
  meet_known met i j := by cases i <;> rfl
  meet_unknown met key j other := by
    have named : Json.form.fieldName (.str key) = .ok key := rfl
    simp only [meet, named, bind, Except.bind]
    split
    · exact absurd rfl (other .kind)
    · exact absurd rfl (other .location)
    · exact absurd rfl (other .parameters)
    · rfl

theorem ofMet_eq_ok_iff {met : Met} :
    (ofMet met : Except DecodeError SourceLocation) = .ok s ↔
      met.kind = some s.kind ∧ met.location = some s.location ∧
        met.parameters.getD .empty = s.parameters := by
  obtain ⟨kind, location, parameters⟩ := met
  obtain ⟨kind', location', parameters'⟩ := s
  cases kind <;> cases location <;>
    simp [ofMet, Form.required, pure, Except.pure, bind, Except.bind, throw, throwThe,
      MonadExceptOf.throw]

def knownNames : List String := ["type", "location", "parameters"]

/-- The members of an object that is a source: the known names once at most, the type and the
location as texts, and the parameters, if there are any, as an object of texts. -/
structure Conforms (members : List (String × Json)) : Prop where
  once : ∀ name ∈ knownNames, Once members name
  kind : ∃ text, ("type", .str text) ∈ members
  location : ∃ text, ("location", .str text) ∈ members
  parameters : ∀ j, ("parameters", j) ∈ members → ∃ ps, j = Parameters.dictionary ps

/-- What the members of an object say about a source. Of two parameters with one name the later
counts. -/
structure Given (members : List (String × Json)) (s : SourceLocation) : Prop where
  kind : ("type", .str s.kind) ∈ members
  location : ("location", .str s.location) ∈ members
  parameters : (∃ ps, ("parameters", Parameters.dictionary ps) ∈ members ∧
      ∀ name, s.parameters.entries.lookup name = ps.reverse.lookup name) ∨
    "parameters" ∉ members.map Prod.fst ∧ s.parameters = .empty

theorem decode_record (complete : ∀ m ∈ members, Complete m.2) :
    decode Json.form (.record members) = .ok s ↔
      ∃ met, reader.Read members met ∧ (ofMet met : Except DecodeError SourceLocation) = .ok s := by
  have fresh : ∀ i, reader.met {} i = none := by rintro (_ | _ | _) <;> rfl
  change (members.map fun m => (Json.str m.1, m.2)).foldlM (meet Json.form) {} >>= ofMet = .ok s ↔ _
  rw [bind_eq_ok_iff]
  exact exists_congr fun met => and_congr_left fun _ => reader.foldlM_fresh_eq_ok_iff complete fresh

theorem given_of_read {met : Met} (read : reader.Read members met)
    (made : (ofMet met : Except DecodeError SourceLocation) = .ok s) : Given members s := by
  obtain ⟨kind, location, parameters⟩ := ofMet_eq_ok_iff.1 made
  obtain ⟨j, kind_there, text⟩ : Holds "type" Json.toText members (some s.kind) :=
    kind ▸ (read .kind).2
  obtain rfl := Json.toText_eq_ok_iff.1 text
  obtain ⟨j, location_there, text⟩ : Holds "location" Json.toText members (some s.location) :=
    location ▸ (read .location).2
  obtain rfl := Json.toText_eq_ok_iff.1 text
  refine ⟨kind_there, location_there, ?_⟩
  have holds : Holds "parameters" (Parameters.decode Json.form) members met.parameters :=
    (read .parameters).2
  cases there : met.parameters with
  | none =>
    rw [there] at holds parameters
    exact .inr ⟨holds, parameters.symm⟩
  | some p =>
    rw [there] at holds parameters
    obtain ⟨j, member, read⟩ := holds
    obtain ⟨ps, rfl, rfl⟩ := Parameters.decode_eq_ok_iff.1 read
    refine .inl ⟨ps, member, fun name => ?_⟩
    rw [← parameters]
    exact Parameters.lookup_ofEntries ps name

theorem conforms_of_read {met : Met} (read : reader.Read members met)
    (made : (ofMet met : Except DecodeError SourceLocation) = .ok s) : Conforms members := by
  have given := given_of_read read made
  refine ⟨?_, ⟨_, given.kind⟩, ⟨_, given.location⟩, fun j member => ?_⟩
  · simp only [knownNames, List.forall_mem_cons]
    exact ⟨(read .kind).1, (read .location).1, (read .parameters).1, nofun⟩
  · obtain ⟨p, read⟩ := read.readable .parameters member
    obtain ⟨ps, rfl, -⟩ := Parameters.decode_eq_ok_iff.1 read
    exact ⟨ps, rfl⟩

theorem exists_read (conforms : Conforms members) :
    ∃ met s, reader.Read members met ∧ (ofMet met : Except DecodeError SourceLocation) = .ok s := by
  have once : ∀ i, Once members (reader.name i) := by
    rintro (_ | _ | _) <;> exact conforms.once _ (by decide)
  obtain ⟨kind, kind_there⟩ := conforms.kind
  obtain ⟨location, location_there⟩ := conforms.location
  have readable : ∀ i j, (reader.name i, j) ∈ members → ∃ a, reader.read i j = .ok a := by
    rintro (_ | _ | _) j member
    · exact ⟨kind, Json.toText_eq_ok_iff.2 ((once .kind).eq member kind_there)⟩
    · exact ⟨location, Json.toText_eq_ok_iff.2 ((once .location).eq member location_there)⟩
    · obtain ⟨ps, rfl⟩ := conforms.parameters j member
      exact ⟨_, Parameters.decode_eq_ok_iff.2 ⟨ps, rfl, rfl⟩⟩
  obtain ⟨met, read⟩ := RecordReader.exists_read once readable
  obtain ⟨k, kind_met⟩ := (read .kind).2.exists_eq_some kind_there
  obtain ⟨l, location_met⟩ := (read .location).2.exists_eq_some location_there
  exact ⟨met, ⟨k, l, met.parameters.getD .empty⟩, read,
    ofMet_eq_ok_iff.2 ⟨kind_met, location_met, rfl⟩⟩

theorem Given.eq (conforms : Conforms members) (h : Given members s) (h' : Given members s') :
    s = s' := by
  have once : ∀ {name}, name ∈ knownNames → Once members name := fun known =>
    conforms.once _ known
  have kind : s.kind = s'.kind := Json.str_inj.1 ((once (by decide)).eq h.kind h'.kind)
  have location : s.location = s'.location :=
    Json.str_inj.1 ((once (by decide)).eq h.location h'.location)
  have parameters : s.parameters = s'.parameters := by
    rcases h.parameters with ⟨ps, there, values⟩ | ⟨missing, empty⟩ <;>
      rcases h'.parameters with ⟨ps', there', values'⟩ | ⟨missing', empty'⟩
    · obtain rfl := Parameters.dictionary_inj.1 ((once (by decide)).eq there there')
      exact Parameters.eq_of_lookup fun name => (values name).trans (values' name).symm
    · exact absurd (Json.mem_names there) missing'
    · exact absurd (Json.mem_names there') missing
    · rw [empty, empty']
  cases s
  cases s'
  simp_all

theorem decode_eq_ok_iff (complete : ∀ m ∈ members, Complete m.2) :
    decode Json.form (.record members) = .ok s ↔ Conforms members ∧ Given members s := by
  rw [decode_record complete]
  constructor
  · rintro ⟨met, read, made⟩
    exact ⟨conforms_of_read read made, given_of_read read made⟩
  · rintro ⟨conforms, given⟩
    obtain ⟨met, s', read, made⟩ := exists_read conforms
    obtain rfl := given.eq conforms (given_of_read read made)
    exact ⟨met, read, made⟩

theorem exists_decode (complete : ∀ m ∈ members, Complete m.2) (conforms : Conforms members) :
    ∃ s, decode Json.form (.record members) = .ok s := by
  obtain ⟨met, s, read, made⟩ := exists_read conforms
  exact ⟨s, (decode_record complete).2 ⟨met, read, made⟩⟩

/-- A source is absent where there is `null`, and what an object is read as. -/
theorem decodeOptional_eq_ok_iff {o : Option SourceLocation}
    (shape : j = .null ∨ ∃ ms, j = .record ms) (complete : Complete j) :
    decodeOptional Json.form j = .ok o ↔
      (j = .null ∧ o = none) ∨
        ∃ ms s, j = .record ms ∧ o = some s ∧ Conforms ms ∧ Given ms s := by
  rcases shape with rfl | ⟨ms, rfl⟩
  · change Except.ok none = .ok o ↔ _
    constructor
    · exact fun read => .inl ⟨rfl, (Except.ok.inj read).symm⟩
    · rintro (⟨-, rfl⟩ | ⟨ms, s, null, -⟩)
      · rfl
      · cases null
  · change (decode Json.form (.record ms) >>= fun s => .ok (some s)) = .ok o ↔ _
    simp only [bind_eq_ok_iff, decode_eq_ok_iff complete.of_record]
    constructor
    · rintro ⟨s, said, read⟩
      exact .inr ⟨ms, s, rfl, (Except.ok.inj read).symm, said⟩
    · rintro (⟨object, -⟩ | ⟨ms', s, same, rfl, said⟩)
      · cases object
      · obtain rfl := Json.record_inj.1 same
        exact ⟨s, said, rfl⟩

/-! ## What does not count -/

/-- Objects that say the same about a source, apart from the order of their members, members of
other names, and what does not count in the parameters. -/
def Alike (members members' : List (String × Json)) : Prop :=
  Json.Alike knownNames "parameters" Parameters.SameDictionary members members'

variable {members' : List (String × Json)}

theorem Alike.symm (h : Alike members members') : Alike members' members :=
  Json.Alike.symm Parameters.SameDictionary.symm h

theorem Conforms.of_alike (conforms : Conforms members) (h : Alike members members') :
    Conforms members' := by
  obtain ⟨kind, kind_there⟩ := conforms.kind
  obtain ⟨location, location_there⟩ := conforms.location
  refine ⟨fun name known => (Json.Alike.once_iff h known).1 (conforms.once name known),
    ⟨kind, Json.Alike.mem h (by decide) (by decide) kind_there⟩,
    ⟨location, Json.Alike.mem h (by decide) (by decide) location_there⟩, fun j there => ?_⟩
  obtain there' | ⟨j', -, ps, -, rfl, -⟩ := Json.Alike.mem_part h.symm (by decide) there
  · exact conforms.parameters j there'
  · exact ⟨ps, rfl⟩

theorem Given.of_alike (given : Given members s) (h : Alike members members') :
    Given members' s := by
  refine ⟨Json.Alike.mem h (by decide) (by decide) given.kind,
    Json.Alike.mem h (by decide) (by decide) given.location, ?_⟩
  rcases given.parameters with ⟨ps, there, values⟩ | ⟨missing, empty⟩
  · left
    obtain there' | ⟨j, there', ps', qs, same, rfl, last⟩ :=
      Json.Alike.mem_part h (by decide) there
    · exact ⟨ps, there', values⟩
    · obtain rfl := Parameters.dictionary_inj.1 same
      exact ⟨qs, there', fun x => (values x).trans (last x)⟩
  · exact .inr ⟨mt (Json.Alike.mem_names_iff h (by decide)).2 missing, empty⟩

end SourceLocation

end ProjectPicker
