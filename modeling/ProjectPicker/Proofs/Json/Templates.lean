import ProjectPicker.Proofs.Json.Sources
import ProjectPicker.Proofs.RoundTrip

/-!
# Which objects are templates

* `Template.Conforms`, `Template.Given` : the objects that are templates, and what their members say
  about the template;
* `Template.decode_eq_ok_iff` : they are read, and as what they say;
* `Template.Alike` : objects that differ in nothing that counts: the order of members, and members
  of other names, also inside a source;
* `Template.Object` : a text that is an object whose source, if there is one, is `null` or an
  object;
* `Template.decode_object` : such a text is read as a template exactly if its members conform, and
  whatever does not count does not change what is read.
-/

set_option autoImplicit false

namespace ProjectPicker.Template

open Json (Complete Once Holds RecordReader Gives bind_eq_ok_iff)

variable {t t' : Template} {members members' : List (String × Json)} {name : String} {j : Json}

/-! ## The reader -/

/-- The fields of a template. -/
inductive Field where
  | name
  | displayName
  | description
  | projectType
  | category
  | tags
  | path
  | source
  deriving DecidableEq

abbrev Field.Value : Field → Type
  | .name | .displayName | .description | .projectType | .category | .path => String
  | .tags => List String
  | .source => Option SourceLocation

def Met.equiv : Met ≃ ∀ i, Option (Field.Value i) where
  toFun met
    | .name => met.name
    | .displayName => met.displayName
    | .description => met.description
    | .projectType => met.projectType
    | .category => met.category
    | .tags => met.tags
    | .path => met.path
    | .source => met.source
  invFun f := {
    name := f .name
    displayName := f .displayName
    description := f .description
    projectType := f .projectType
    category := f .category
    tags := f .tags
    path := f .path
    source := f .source }
  left_inv _ := rfl
  right_inv f := by
    funext i
    cases i <;> rfl

def reader : RecordReader Met Field Field.Value where
  name
    | .name => "name"
    | .displayName => "displayName"
    | .description => "description"
    | .projectType => "projectType"
    | .category => "category"
    | .tags => "tags"
    | .path => "path"
    | .source => "source"
  distinct i i' h := by cases i <;> cases i' <;> first | rfl | (revert h; decide)
  read
    | .name | .displayName | .description | .projectType | .category | .path => Json.toText
    | .tags => Json.form.texts
    | .source => SourceLocation.decodeOptional Json.form
  met := Met.equiv
  meet := meet Json.form
  meet_known met i j := by cases i <;> rfl
  meet_unknown met key j other := by
    have named : Json.form.fieldName (.str key) = .ok key := rfl
    simp only [meet, named, bind, Except.bind]
    split
    · exact absurd rfl (other .name)
    · exact absurd rfl (other .displayName)
    · exact absurd rfl (other .description)
    · exact absurd rfl (other .projectType)
    · exact absurd rfl (other .category)
    · exact absurd rfl (other .tags)
    · exact absurd rfl (other .path)
    · exact absurd rfl (other .source)
    · rfl

theorem ofMet_eq_ok_iff {met : Met} :
    (ofMet met : Except DecodeError Template) = .ok t ↔
      ∃ name, met.name = some name ∧ t = {
        name
        displayName := met.displayName.getD ""
        description := met.description.getD ""
        projectType := met.projectType.getD ""
        category := met.category.getD ""
        tags := met.tags.getD []
        path := met.path.getD ""
        source := met.source.getD none } := by
  rw [ofMet]
  cases met.name with
  | none => exact ⟨nofun, nofun⟩
  | some name => simp [Form.required, pure, Except.pure, bind, Except.bind, eq_comm]

theorem decode_record (complete : ∀ m ∈ members, Complete m.2) :
    decode Json.form (.record members) = .ok t ↔
      ∃ met, reader.Read members met ∧ (ofMet met : Except DecodeError Template) = .ok t := by
  have fresh : ∀ i, reader.met {} i = none := by rintro (_ | _) <;> rfl
  change (members.map fun m => (Json.str m.1, m.2)).foldlM (meet Json.form) {} >>= ofMet = .ok t ↔ _
  rw [bind_eq_ok_iff]
  exact exists_congr fun met => and_congr_left fun _ => reader.foldlM_fresh_eq_ok_iff complete fresh

/-! ## What members say -/

def knownNames : List String :=
  ["name", "displayName", "description", "projectType", "category", "tags", "path", "source"]

/-- The fields that are texts and may be left out. -/
def textNames : List String := ["displayName", "description", "projectType", "category", "path"]

/-- The values of an object are JSON throughout, and its source, if there is one, is `null` or an
object. -/
structure Shape (members : List (String × Json)) : Prop where
  complete : ∀ m ∈ members, Complete m.2
  source : ∀ j, ("source", j) ∈ members → j = .null ∨ ∃ ms, j = .record ms

/-- The members of an object that is a template: the known names once at most, the name as a text,
and the other fields, those that are there, as values of their types. -/
structure Conforms (members : List (String × Json)) : Prop where
  once : ∀ name ∈ knownNames, Once members name
  name : ∃ text, ("name", .str text) ∈ members
  text : ∀ name ∈ textNames, ∀ j, (name, j) ∈ members → ∃ text, j = .str text
  tags : ∀ j, ("tags", j) ∈ members → ∃ texts, j = .strings texts
  source : ∀ ms, ("source", .record ms) ∈ members → SourceLocation.Conforms ms

/-- What the members of an object say about a template. A field without a member is empty. -/
structure Given (members : List (String × Json)) (t : Template) : Prop where
  name : ("name", .str t.name) ∈ members
  displayName : Gives members "displayName" .str "" t.displayName
  description : Gives members "description" .str "" t.description
  projectType : Gives members "projectType" .str "" t.projectType
  category : Gives members "category" .str "" t.category
  tags : Gives members "tags" .strings [] t.tags
  path : Gives members "path" .str "" t.path
  source : (∃ ms s, ("source", .record ms) ∈ members ∧ t.source = some s ∧
      SourceLocation.Given ms s) ∨
    (("source", .null) ∈ members ∨ "source" ∉ members.map Prod.fst) ∧ t.source = none

/-! ## What is read -/

theorem given_of_read {met : Met} (shape : Shape members) (read : reader.Read members met)
    (made : (ofMet met : Except DecodeError Template) = .ok t) : Given members t := by
  obtain ⟨name, named, rfl⟩ := ofMet_eq_ok_iff.1 made
  have text : ∀ {name : String} {met : Option String}, Holds name Json.toText members met →
      Gives members name .str "" (met.getD "") := fun h => h.gives Json.toText_eq_ok_iff
  obtain ⟨j, there, text_read⟩ : Holds "name" Json.toText members (some name) :=
    named ▸ (read .name).2
  obtain rfl := Json.toText_eq_ok_iff.1 text_read
  exact {
    name := there
    displayName := text (read .displayName).2
    description := text (read .description).2
    projectType := text (read .projectType).2
    category := text (read .category).2
    tags := Holds.gives Json.texts_eq_ok_iff (read .tags).2
    path := text (read .path).2
    source := by
      have holds : Holds "source" (SourceLocation.decodeOptional Json.form) members met.source :=
        (read .source).2
      cases there : met.source with
      | none =>
        rw [there] at holds
        exact .inr ⟨.inr holds, rfl⟩
      | some o =>
        rw [there] at holds
        obtain ⟨j, member, read⟩ := holds
        rw [SourceLocation.decodeOptional_eq_ok_iff (shape.source j member)
          (shape.complete _ member)] at read
        rcases read with ⟨rfl, rfl⟩ | ⟨ms, s, rfl, rfl, -, given⟩
        · exact .inr ⟨.inl member, rfl⟩
        · exact .inl ⟨ms, s, member, rfl, given⟩ }

theorem conforms_of_read {met : Met} (shape : Shape members) (read : reader.Read members met)
    (made : (ofMet met : Except DecodeError Template) = .ok t) : Conforms members := by
  have text : ∀ {j}, (∃ s, Json.toText j = .ok s) → ∃ s, j = .str s := fun ⟨s, h⟩ =>
    ⟨s, Json.toText_eq_ok_iff.1 h⟩
  refine ⟨?_, ⟨_, (given_of_read shape read made).name⟩, ?_, fun j there => ?_, fun ms there => ?_⟩
  · simp only [knownNames, List.forall_mem_cons]
    exact ⟨(read .name).1, (read .displayName).1, (read .description).1, (read .projectType).1,
      (read .category).1, (read .tags).1, (read .path).1, (read .source).1, nofun⟩
  · simp only [textNames, List.forall_mem_cons]
    exact ⟨fun j there => text (read.readable .displayName there),
      fun j there => text (read.readable .description there),
      fun j there => text (read.readable .projectType there),
      fun j there => text (read.readable .category there),
      fun j there => text (read.readable .path there), nofun⟩
  · obtain ⟨texts, read⟩ := read.readable .tags there
    exact ⟨texts, Json.texts_eq_ok_iff.1 read⟩
  · obtain ⟨o, read⟩ := read.readable .source there
    obtain ⟨null, -⟩ | ⟨ms', s, same, -, conforms, -⟩ :=
      (SourceLocation.decodeOptional_eq_ok_iff (shape.source _ there)
        (shape.complete _ there)).1 read
    · cases null
    · exact Json.record_inj.1 same ▸ conforms

theorem exists_read (shape : Shape members) (conforms : Conforms members) :
    ∃ met t, reader.Read members met ∧ (ofMet met : Except DecodeError Template) = .ok t := by
  have once : ∀ i, Once members (reader.name i) := by
    rintro (_ | _) <;> exact conforms.once _ (by decide)
  obtain ⟨name, name_there⟩ := conforms.name
  have text : ∀ {name j}, name ∈ textNames → (name, j) ∈ members →
      ∃ s, Json.toText j = .ok s := by
    intro name j known there
    obtain ⟨s, rfl⟩ := conforms.text name known j there
    exact ⟨s, rfl⟩
  have readable : ∀ i j, (reader.name i, j) ∈ members → ∃ a, reader.read i j = .ok a := by
    rintro (_ | _) j there
    case name => exact ⟨name, Json.toText_eq_ok_iff.2 ((once .name).eq there name_there)⟩
    case tags =>
      obtain ⟨texts, rfl⟩ := conforms.tags j there
      exact ⟨texts, Json.texts_eq_ok_iff.2 rfl⟩
    case source =>
      obtain rfl | ⟨ms, rfl⟩ := shape.source j there
      · exact ⟨none, rfl⟩
      · obtain ⟨s, read⟩ := SourceLocation.exists_decode (shape.complete _ there).of_record
          (conforms.source ms there)
        exact ⟨some s, bind_eq_ok_iff.2 ⟨_, rfl, bind_eq_ok_iff.2 ⟨s, read, rfl⟩⟩⟩
    all_goals exact text (by decide) there
  obtain ⟨met, read⟩ := RecordReader.exists_read once readable
  obtain ⟨n, named⟩ := (read .name).2.exists_eq_some name_there
  exact ⟨met, _, read, ofMet_eq_ok_iff.2 ⟨n, named, rfl⟩⟩

theorem Given.eq (conforms : Conforms members) (h : Given members t) (h' : Given members t') :
    t = t' := by
  have once : ∀ {name}, name ∈ knownNames → Once members name := fun known =>
    conforms.once _ known
  have text : ∀ {name a b}, name ∈ knownNames → Gives members name .str "" a →
      Gives members name .str "" b → a = b := fun known =>
    Gives.eq (once known) Json.str_inj.1
  have name : t.name = t'.name := Json.str_inj.1 ((once (by decide)).eq h.name h'.name)
  have displayName := text (by decide) h.displayName h'.displayName
  have description := text (by decide) h.description h'.description
  have projectType := text (by decide) h.projectType h'.projectType
  have category := text (by decide) h.category h'.category
  have path := text (by decide) h.path h'.path
  have tags : t.tags = t'.tags := Gives.eq (once (by decide)) Json.strings_inj.1 h.tags h'.tags
  have apart : ∀ {ms}, ("source", .record ms) ∈ members →
      ¬ (("source", .null) ∈ members ∨ "source" ∉ members.map Prod.fst) := by
    rintro ms there (null | missing)
    · cases (once (by decide)).eq there null
    · exact missing (Json.mem_names there)
  have source : t.source = t'.source := by
    rcases h.source with ⟨ms, s, there, found, given⟩ | ⟨absent, none⟩ <;>
      rcases h'.source with ⟨ms', s', there', found', given'⟩ | ⟨absent', none'⟩
    · obtain rfl := Json.record_inj.1 ((once (by decide)).eq there there')
      rw [found, found', given.eq (conforms.source ms there) given']
    · exact absurd absent' (apart there)
    · exact absurd absent (apart there')
    · rw [none, none']
  cases t
  cases t'
  simp_all

theorem decode_eq_ok_iff (shape : Shape members) :
    decode Json.form (.record members) = .ok t ↔ Conforms members ∧ Given members t := by
  rw [decode_record shape.complete]
  constructor
  · rintro ⟨met, read, made⟩
    exact ⟨conforms_of_read shape read made, given_of_read shape read made⟩
  · rintro ⟨conforms, given⟩
    obtain ⟨met, t', read, made⟩ := exists_read shape conforms
    obtain rfl := given.eq conforms (given_of_read shape read made)
    exact ⟨met, read, made⟩

/-! ## What does not count -/

def SameSource (j j' : Json) : Prop :=
  ∃ ms ms', j = .record ms ∧ j' = .record ms' ∧ SourceLocation.Alike ms ms'

theorem SameSource.symm {j j' : Json} : SameSource j j' → SameSource j' j :=
  fun ⟨ms, ms', left, right, alike⟩ => ⟨ms', ms, right, left, alike.symm⟩

/-- Objects that say the same about a template, apart from the order of their members, members of
other names, and what does not count in the source. -/
def Alike (members members' : List (String × Json)) : Prop :=
  Json.Alike knownNames "source" SameSource members members'

theorem Alike.symm (h : Alike members members') : Alike members' members :=
  Json.Alike.symm SameSource.symm h

theorem Conforms.of_alike (conforms : Conforms members) (h : Alike members members') :
    Conforms members' := by
  obtain ⟨name, name_there⟩ := conforms.name
  refine ⟨fun name known => (Json.Alike.once_iff h known).1 (conforms.once name known),
    ⟨name, Json.Alike.mem h (by decide) (by decide) name_there⟩, fun name known j there => ?_,
    fun j there => conforms.tags j (Json.Alike.mem h.symm (by decide) (by decide) there),
    fun ms there => ?_⟩
  · have fields : ∀ name ∈ textNames, name ∈ knownNames ∧ name ≠ "source" := by decide
    obtain ⟨is_known, other⟩ := fields name known
    exact conforms.text name known j (Json.Alike.mem h.symm is_known other there)
  · obtain there' | ⟨j, there', ms', ms'', same, rfl, alike⟩ :=
      Json.Alike.mem_part h.symm (by decide) there
    · exact conforms.source ms there'
    · obtain rfl := Json.record_inj.1 same
      exact (conforms.source ms'' there').of_alike alike.symm

theorem Given.of_alike (given : Given members t) (h : Alike members members') :
    Given members' t where
  name := Json.Alike.mem h (by decide) (by decide) given.name
  displayName := Json.Alike.gives h (by decide) (by decide) given.displayName
  description := Json.Alike.gives h (by decide) (by decide) given.description
  projectType := Json.Alike.gives h (by decide) (by decide) given.projectType
  category := Json.Alike.gives h (by decide) (by decide) given.category
  tags := Json.Alike.gives h (by decide) (by decide) given.tags
  path := Json.Alike.gives h (by decide) (by decide) given.path
  source := by
    rcases given.source with ⟨ms, s, there, found, said⟩ | ⟨absent, none⟩
    · obtain there' | ⟨j, there', ms', ms'', same, rfl, alike⟩ :=
        Json.Alike.mem_part h (by decide) there
      · exact .inl ⟨ms, s, there', found, said⟩
      · obtain rfl := Json.record_inj.1 same
        exact .inl ⟨ms'', s, there', found, said.of_alike alike⟩
    · refine .inr ⟨absent.imp (fun there => ?_) (mt (Json.Alike.mem_names_iff h (by decide)).2),
        none⟩
      obtain there' | ⟨j, -, ms, ms', null, -⟩ := Json.Alike.mem_part h (by decide) there
      · exact there'
      · cases null

/-! ## Texts -/

variable {text : String}

/-- The text is an object of this shape with these members, and nothing else. The names of its
members are texts, so each escape in them names a character; texts further inside may be any. -/
structure Object (text : String) (members : List (String × Json)) : Prop extends
    Shape members where
  read : Json.read text = ⟨.record members, true⟩

theorem Object.decode_eq (object : Object text members) :
    Json.decode decode text = decode Json.form (.record members) := by
  rw [Json.decode, object.read]
  cases decode Json.form (.record members) <;> rfl

/-- A text that is an object is read as a template exactly if its members conform to one. The
template is then as the members say, and neither their order nor other members change it. -/
theorem decode_object (object : Object text members) :
    ((∃ t, Json.decode decode text = .ok t) ↔ Conforms members) ∧
      (∀ t, Json.decode decode text = .ok t → Given members t) ∧
      ∀ text' members', Object text' members' → Alike members members' →
        ∀ t, Json.decode decode text = .ok t ↔ Json.decode decode text' = .ok t := by
  have reads : ∀ {text members t}, Object text members →
      (Json.decode decode text = .ok t ↔ Conforms members ∧ Given members t) := by
    intro text members t object
    rw [object.decode_eq, decode_eq_ok_iff object.toShape]
  refine ⟨⟨fun ⟨t, read⟩ => ((reads object).1 read).1, fun conforms => ?_⟩,
    fun t read => ((reads object).1 read).2, fun text' members' object' alike t => ?_⟩
  · obtain ⟨met, t, read, made⟩ := exists_read object.toShape conforms
    exact ⟨t, (reads object).2 ⟨conforms, given_of_read object.toShape read made⟩⟩
  · rw [reads object, reads object']
    constructor
    · exact fun ⟨conforms, given⟩ => ⟨conforms.of_alike alike, given.of_alike alike⟩
    · exact fun ⟨conforms, given⟩ => ⟨conforms.of_alike alike.symm, given.of_alike alike.symm⟩

theorem object_compact (plain : ∀ m ∈ members, Json.Numberless m.2)
    (source : ∀ j, ("source", j) ∈ members → j = .null ∨ ∃ ms, j = .record ms) :
    Object (Json.record members).compact members where
  complete m hm := (plain m hm).complete
  source := source
  read := Json.read_compact (.record plain)

/-- A template, with members that do not count. -/
def described : List (String × Json) :=
  [("version", .bool true), ("name", .str "a"),
    ("source", .record [("type", .str "t"), ("size", .null), ("location", .str "l")])]

/-- The same template in another order, without those members. -/
def redescribed : List (String × Json) :=
  [("source", .record [("location", .str "l"), ("type", .str "t")]), ("name", .str "a")]

theorem alike_redescribed : Alike described redescribed := by
  refine ⟨[("source", .record [("type", .str "t"), ("size", .null), ("location", .str "l")]),
    ("name", .str "a")], ?_, ?_⟩
  · exact .swap _ _ []
  · refine .cons ⟨rfl, .inr ⟨rfl, _, _, rfl, rfl, ?_⟩⟩ (.cons ⟨rfl, .inl rfl⟩ .nil)
    exact ⟨_, .swap _ _ [], .cons ⟨rfl, .inl rfl⟩ (.cons ⟨rfl, .inl rfl⟩ .nil)⟩

theorem object_described : Object (Json.record described).compact described := by
  refine object_compact ?_ ?_
  · simp only [described, List.forall_mem_cons]
    refine ⟨.bool true, .str "a", .record ?_, nofun⟩
    simp only [List.forall_mem_cons]
    exact ⟨.str "t", .null, .str "l", nofun⟩
  · simp [described]

theorem object_redescribed : Object (Json.record redescribed).compact redescribed := by
  refine object_compact ?_ ?_
  · simp only [redescribed, List.forall_mem_cons]
    refine ⟨.record ?_, .str "a", nofun⟩
    simp only [List.forall_mem_cons]
    exact ⟨.str "l", .str "t", nofun⟩
  · simp [redescribed]

theorem conforms_described : Conforms described where
  once := by unfold Once; decide
  name := ⟨"a", by simp [described]⟩
  text := by simp [textNames, described]
  tags := by simp [described]
  source ms there := by
    obtain rfl : ms = [("type", .str "t"), ("size", .null), ("location", .str "l")] := by
      simpa [described, Json.record_inj] using there
    exact {
      once := by unfold Once; decide
      kind := ⟨"t", by simp⟩
      location := ⟨"l", by simp⟩
      parameters := by simp }

/-- Both texts are read, and as one template. -/
theorem decode_object_redescribed :
    Object (Json.record described).compact described ∧
      Object (Json.record redescribed).compact redescribed ∧ Alike described redescribed ∧
        ∃ t, Json.decode decode (Json.record described).compact = .ok t ∧
          Json.decode decode (Json.record redescribed).compact = .ok t := by
  obtain ⟨reads, -, same⟩ := decode_object object_described
  obtain ⟨t, read⟩ := reads.2 conforms_described
  exact ⟨object_described, object_redescribed, alike_redescribed, t, read,
    (same _ _ object_redescribed alike_redescribed t).1 read⟩

end ProjectPicker.Template
