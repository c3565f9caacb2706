import ProjectPicker.Board

/-!
# The template selector

* `Checks` : the check boxes, one for each listed name;
* `Selector` : the templates listed for the active stack, their check boxes, and the templates
  selected, some of which may be hidden by the stack;
* `Selector.stackChanged`, `Selector.fetched` : the list follows the stack and the catalogue;
* `Selector.click`, `Selector.added` : the selection follows the user and the ready list.
-/

set_option autoImplicit false

namespace ProjectPicker

/-- The check boxes: a name and whether it is checked, each name once. -/
abbrev Checks := List (String × Bool)

namespace Checks

def hasBox (c : Checks) (name : String) : Bool := c.any (·.1 == name)

def isChecked (c : Checks) (name : String) : Bool := c.any fun box => box.1 == name && box.2

/-- Sets the box of this name, if there is one. -/
def put (c : Checks) (name : String) (checked : Bool) : Checks :=
  c.map fun box => if box.1 == name then (name, checked) else box

/-- A box for each of the names, checked as `c` has it. -/
def relist (c : Checks) (names : List String) : Checks :=
  names.eraseDups.map fun name => (name, c.isChecked name)

end Checks

/-- The templates listed for the active stack, and what is selected among all. -/
structure Selector where
  /-- The tags of the active stack, in lower case. -/
  stackTags : List String := []
  /-- The templates of the last fetch, in order. -/
  all : List Template := []
  /-- The templates shown. -/
  listed : List Template := []
  checks : Checks := []
  /-- The templates selected, shown or not. -/
  selected : List Template := []
  /-- The number of checked templates as last shown. -/
  count : Nat := 0
  deriving DecidableEq, Repr, Inhabited

namespace Selector

def isChecked (s : Selector) (name : String) : Bool := s.checks.isChecked name

def checkedTemplates (s : Selector) : List Template := s.listed.filter fun t => s.isChecked t.name

def recount (s : Selector) : Selector := { s with count := s.checkedTemplates.length }

def anySelected (count : Int) : Bool := 0 < count

/-- Lists the templates that carry a tag of the active stack, and checks those selected. Without
stack tags the list stays as it was. -/
def filter (s : Selector) : Selector :=
  let listed :=
    if s.stackTags.isEmpty then s.listed else s.all.filter (·.hasTag s.stackTags)
  let checks := s.checks.relist (Template.names listed)
  { s with
    listed
    checks := (Template.names s.selected).foldl (fun c name => c.put name true) checks }

/-- The active stack changed. Without an active stack nothing happens. -/
def stackChanged (b : Board) (s : Selector) : Selector :=
  match b.activeStack with
  | none => s
  | some id => ({ s with stackTags := Stack.activeTags b.stackList id } : Selector).filter.recount

def attach (b : Board) : Selector := stackChanged b { selected := b.chosen }

def fetched (b : Board) (s : Selector) : Selector :=
  ({ s with all := Template.sort b.catalogue } : Selector).filter

/-- Replaces the selection, here and on the board, and counts anew. -/
def select (selected : List Template) (s : Selector) (b : Board) : Selector × Board :=
  (({ s with selected } : Selector).recount, { b with chosen := selected })

/-- The box of `name` was clicked: what is selected is what is checked in the list. -/
def click (name : String) (checked : Bool) (s : Selector) (b : Board) : Selector × Board :=
  let s := { s with checks := s.checks.put name checked }
  s.select s.checkedTemplates b

/-- A project called `name` was added: it is unchecked, and no longer selected. -/
def added (name : String) (s : Selector) (b : Board) : Selector × Board :=
  if s.checks.hasBox name || s.selected.any (·.name == name) then
    let s := { s with checks := s.checks.put name false }
    s.select (s.selected.filter (·.name != name)) b
  else (s, b)

end Selector

end ProjectPicker
