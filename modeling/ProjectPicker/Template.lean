import ProjectPicker.Text.LowerCase

/-!
# Project templates

* `Parameters` : the parameters of a source, in increasing order of their names;
* `SourceLocation` : where the files of a project come from;
* `Template` : a project that can be imported; its name is its identity;
* `Template.sort` : by project type, then by display name;
* `Template.hasTag` : whether a template carries one of a stack's tags.
-/

set_option autoImplicit false

namespace ProjectPicker

/-- Puts an entry into a list of entries in increasing order of names; an entry of the same name is
replaced. -/
def insertEntry (name value : String) : List (String × String) → List (String × String)
  | [] => [(name, value)]
  | (n, v) :: rest =>
    if name < n then (name, value) :: (n, v) :: rest
    else if n < name then (n, v) :: insertEntry name value rest
    else (name, value) :: rest

abbrev Increasing (entries : List (String × String)) : Prop :=
  entries.Pairwise fun a b => a.1 < b.1

theorem mem_insertEntry {name value : String} {e : String × String} :
    ∀ {entries : List (String × String)},
      e ∈ insertEntry name value entries → e.1 = name ∨ e ∈ entries
  | [], h => by simp [insertEntry] at h; simp [h]
  | (n, v) :: rest, h => by
    unfold insertEntry at h
    split at h
    · rcases List.mem_cons.mp h with rfl | h
      · exact .inl rfl
      · exact .inr h
    · split at h
      · rcases List.mem_cons.mp h with rfl | h
        · exact .inr (by simp)
        · exact (mem_insertEntry h).imp id fun h => by simp [h]
      · rcases List.mem_cons.mp h with rfl | h
        · exact .inl rfl
        · exact .inr (by simp [h])

theorem increasing_insertEntry {name value : String} :
    ∀ {entries : List (String × String)}, Increasing entries →
      Increasing (insertEntry name value entries)
  | [], _ => by simp [Increasing, insertEntry]
  | (n, v) :: rest, h => by
    obtain ⟨hn, hr⟩ := List.pairwise_cons.mp h
    unfold insertEntry
    split
    · rename_i lt
      refine List.pairwise_cons.mpr ⟨fun e he => ?_, h⟩
      rcases List.mem_cons.mp he with rfl | he
      · exact lt
      · exact String.lt_trans lt (hn e he)
    · rename_i not_lt
      split
      · rename_i gt
        refine List.pairwise_cons.mpr ⟨fun e he => ?_, increasing_insertEntry hr⟩
        rcases mem_insertEntry he with he | he
        · exact he ▸ gt
        · exact hn e he
      · rename_i not_gt
        have same : name = n :=
          String.le_antisymm (String.not_lt.mp not_gt) (String.not_lt.mp not_lt)
        exact List.pairwise_cons.mpr ⟨fun e he => same ▸ hn e he, hr⟩

/-- The parameters of a source, in increasing order of their names. -/
structure Parameters where
  entries : List (String × String)
  increasing : Increasing entries
  deriving DecidableEq, Repr

namespace Parameters

def empty : Parameters := ⟨[], .nil⟩

instance : Inhabited Parameters := ⟨empty⟩

def insert (p : Parameters) (name value : String) : Parameters :=
  ⟨insertEntry name value p.entries, increasing_insertEntry p.increasing⟩

def isEmpty (p : Parameters) : Bool := p.entries.isEmpty

end Parameters

/-- Where the files of a project come from. -/
structure SourceLocation where
  kind : String
  location : String
  parameters : Parameters := .empty
  deriving DecidableEq, Repr, Inhabited

/-- A project that can be imported. Its name is its identity. -/
structure Template where
  name : String
  displayName : String := ""
  description : String := ""
  projectType : String := ""
  category : String := ""
  tags : List String := []
  path : String := ""
  source : Option SourceLocation := none
  deriving DecidableEq, Repr, Inhabited

def lowerTags (tags : List String) : List String := tags.map Text.lower

namespace Template

/-- Templates are listed by project type, then by display name, both by code points. -/
def precedes (a b : Template) : Bool :=
  a.projectType < b.projectType ||
    (a.projectType == b.projectType && a.displayName ≤ b.displayName)

/-- Templates in the order of the list; templates that tie keep their places. -/
def sort (templates : List Template) : List Template := templates.mergeSort precedes

/-- Whether a template carries one of the stack's tags, which are in lower case already. -/
def hasTag (t : Template) (stackTags : List String) : Bool :=
  (lowerTags t.tags).any fun tag => stackTags.contains tag

def names (templates : List Template) : List String := templates.map (·.name)

end Template

end ProjectPicker
