import ProjectPicker.Board

/-!
# Editing the metadata of a project

* `ProjectName.isValid` : the names that a project may be saved under;
* `Editor` : a draft of a project, and the name that the project is known by;
* `Editor.openOn`, `Editor.save` : the two ends of editing;
* `Template.Changes` : new values for some fields of a template.
-/

set_option autoImplicit false

namespace ProjectPicker

namespace ProjectName

def maxOctets : Nat := 128

/-- The characters of a project name: ASCII letters and digits, `_`, `-` and `.`. -/
def isAllowed (c : Char) : Bool := c.isAlphanum || c == '_' || c == '-' || c == '.'

/-- The names that a project may be saved under. -/
def isValid (name : String) : Bool :=
  !name.isEmpty && name.utf8ByteSize ≤ maxOctets && name.toList.all isAllowed

end ProjectName

/-- New values for some fields of a template. -/
structure Template.Changes where
  name : Option String := none
  displayName : Option String := none
  description : Option String := none
  projectType : Option String := none
  category : Option String := none
  tags : Option (List String) := none
  path : Option String := none
  source : Option (Option SourceLocation) := none

def Template.change (t : Template) (c : Template.Changes) : Template where
  name := c.name.getD t.name
  displayName := c.displayName.getD t.displayName
  description := c.description.getD t.description
  projectType := c.projectType.getD t.projectType
  category := c.category.getD t.category
  tags := c.tags.getD t.tags
  path := c.path.getD t.path
  source := c.source.getD t.source

/-- A draft of a project, and the name that the project is known by in the ready list. -/
structure Editor where
  draft : Template
  knownAs : String
  deriving DecidableEq, Repr, Inhabited

namespace Editor

/-- Opens an editor on a template, which needs a name that is not blank. -/
def openOn (t : Template) : Except Refusal Editor :=
  if Text.isBlankText t.name then .error .missingTemplateName else .ok ⟨t, t.name⟩

/-- Shows the draft as the metadata edited last. -/
def announce (e : Editor) (b : Board) : Board := { b with edited := some e.draft }

def isNameFree (e : Editor) (b : Board) (name : String) : Bool := b.isFree name e.knownAs

def onBoard {α : Type} (a : Attempt Refusal Board α) : Attempt Refusal (Editor × Board) α :=
  a.within Prod.snd fun board s => (s.1, board)

/-- Writes the draft back into the ready list; from then on the project is known by its new
name. -/
def save : Attempt Refusal (Editor × Board) Unit := do
  let (e, _) ← get
  .require (ProjectName.isValid e.draft.name) (.invalidProjectName e.draft.name)
  onBoard (Board.update e.knownAs e.draft)
  modify fun (e, b) => (e, e.announce b)
  modify fun (e, b) => ({ e with knownAs := e.draft.name }, b)

def change (e : Editor) (c : Template.Changes) : Editor := { e with draft := e.draft.change c }

end Editor

end ProjectPicker
