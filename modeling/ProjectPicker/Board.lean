import ProjectPicker.Attempt
import ProjectPicker.Location
import ProjectPicker.ReadyList
import ProjectPicker.Stack

/-!
# The board

* `Board` : what all views share;
* `Board.candidates` : the templates that an import from a source would add;
* `Board.takeIn` : adds them to the ready list;
* `Board.update`, `Board.remove` : the other changes of the ready list.
-/

set_option autoImplicit false

namespace ProjectPicker

/-- What all views share: the stacks and the active one, the locations typed, the templates fetched
and those chosen for import, the projects ready to import, and the metadata edited last. -/
structure Board where
  stackList : List Stack := []
  activeStack : Option String := none
  gitLocation : String := ""
  zipLocation : String := ""
  zipSkip : Bool := false
  catalogue : List Template := []
  chosen : List Template := []
  ready : List Template := []
  edited : Option Template := none
  deriving DecidableEq, Repr, Inhabited

namespace Board

def gitTemplate? (b : Board) : Option Template := Location.gitTemplate? b.gitLocation

def zipTemplate? (b : Board) : Option Template := Location.zipTemplate? b.zipLocation b.zipSkip

/-- The templates that an import from a source would add. -/
def candidates (b : Board) : Source → Except Refusal (List Template)
  | .git =>
    match b.gitTemplate? with
    | some t => .ok [t]
    | none => .error (.emptyLocation .git)
  | .zip =>
    match b.zipTemplate? with
    | some t => .ok [t]
    | none => .error (.emptyLocation .zip)
  | .templates => if b.chosen.isEmpty then .error .noTemplatesSelected else .ok b.chosen

/-- Adds the candidates of a source to the ready list, all or none. The names are those to be
announced afterwards. -/
def takeIn (source : Source) : Attempt Refusal Board (List String) := do
  let b ← get
  let batch ← .ofExcept (b.candidates source)
  let ready ← .ofExcept (ReadyList.append b.ready batch)
  set { b with ready }
  return Template.names batch

/-- Puts a template in the place of the project called `old`. -/
def update (old : String) (t : Template) : Attempt Refusal Board Unit := do
  let b ← get
  let ready ← .ofExcept (ReadyList.replace b.ready old t)
  set { b with ready }

def remove (name : String) : Attempt Refusal Board Template := do
  let b ← get
  let (t, ready) ← .ofExcept (ReadyList.remove b.ready name)
  set { b with ready }
  return t

def isFree (b : Board) (name except : String) : Bool := ReadyList.isFree b.ready name except

end Board

end ProjectPicker
