import ProjectPicker.Refusal
import ProjectPicker.Template

/-!
# The list of projects that are ready to import

The list is a list of templates in which no two share a name.

* `ReadyList.holds` : whether a name occurs in it;
* `ReadyList.firstClash?` : the first name of a batch that is taken, or repeated in the batch;
* `ReadyList.append`, `ReadyList.replace`, `ReadyList.remove` : the three ways to change it;
* `ReadyList.isFree` : whether a project may take a name.
-/

set_option autoImplicit false

namespace ProjectPicker.ReadyList

def holds (ready : List Template) (name : String) : Bool := ready.any (·.name == name)

def find? (ready : List Template) (name : String) : Option Template := ready.find? (·.name == name)

/-- The first of the names that is among `taken` or stands earlier in the batch. -/
def firstClash? (taken : List String) : List String → Option String
  | [] => none
  | name :: rest => if taken.contains name then some name else firstClash? (name :: taken) rest

/-- Appends a whole batch, or nothing when one of its names clashes. -/
def append (ready batch : List Template) : Except Refusal (List Template) :=
  match firstClash? (Template.names ready) (Template.names batch) with
  | some name => .error (.duplicateProjectName name)
  | none => .ok (ready ++ batch)

/-- Whether no project other than those called `except` is called `name`. -/
def isFree (ready : List Template) (name except : String) : Bool :=
  !ready.any fun t => t.name != except && t.name == name

def replaceFirst (name : String) (t : Template) : List Template → Option (List Template)
  | [] => none
  | x :: rest =>
    if x.name == name then some (t :: rest) else (replaceFirst name t rest).map (x :: ·)

def removeFirst (name : String) : List Template → Option (Template × List Template)
  | [] => none
  | x :: rest =>
    if x.name == name then some (x, rest)
    else (removeFirst name rest).map fun r => (r.1, x :: r.2)

/-- Puts `t` in the place of the project called `old`. That its name is free is asked first. -/
def replace (ready : List Template) (old : String) (t : Template) :
    Except Refusal (List Template) :=
  if isFree ready t.name old then
    match replaceFirst old t ready with
    | some ready => .ok ready
    | none => .error (.unknownProject old)
  else .error (.duplicateProjectName t.name)

def remove (ready : List Template) (name : String) :
    Except Refusal (Template × List Template) :=
  match removeFirst name ready with
  | some r => .ok r
  | none => .error (.unknownProject name)

end ProjectPicker.ReadyList
