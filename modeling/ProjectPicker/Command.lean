import ProjectPicker.Session

/-!
# Commands

* `Command` : one action of a user;
* `Command.action` : its name;
* `Script` : a list of commands;
* `Session.apply` : carries a command out.
-/

set_option autoImplicit false

namespace ProjectPicker

/-- One action of a user. -/
inductive Command where
  | selectStack (id : Option String)
  | setGitLocation (location : String)
  | setZipLocation (location : String) (skip : Bool)
  | toggleTemplate (name : String) (checked : Bool)
  | addFromSource (source : Source)
  | renameProject (old new : String)
  deriving DecidableEq, Repr, Inhabited

/-- A list of commands. -/
structure Script where
  commands : List Command := []
  deriving DecidableEq, Repr, Inhabited

/-- The actions, by name. -/
inductive Command.Action where
  | selectStack
  | setGitLocation
  | setZipLocation
  | toggleTemplate
  | addFromSource
  | renameProject
  deriving DecidableEq, Repr

namespace Command.Action

def word : Action → String
  | .selectStack => "select_stack"
  | .setGitLocation => "set_git_location"
  | .setZipLocation => "set_zip_location"
  | .toggleTemplate => "toggle_template"
  | .addFromSource => "add_from_source"
  | .renameProject => "rename_project"

def ofWord? : String → Option Action
  | "select_stack" => some .selectStack
  | "set_git_location" => some .setGitLocation
  | "set_zip_location" => some .setZipLocation
  | "toggle_template" => some .toggleTemplate
  | "add_from_source" => some .addFromSource
  | "rename_project" => some .renameProject
  | _ => none

theorem ofWord?_word (a : Action) : ofWord? a.word = some a := by cases a <;> rfl

end Command.Action

def Command.action : Command → Action
  | .selectStack _ => .selectStack
  | .setGitLocation _ => .setGitLocation
  | .setZipLocation _ _ => .setZipLocation
  | .toggleTemplate _ _ => .toggleTemplate
  | .addFromSource _ => .addFromSource
  | .renameProject _ _ => .renameProject

namespace Session

def apply : Command → Attempt Refusal Session Unit
  | .selectStack id => selectStack id
  | .setGitLocation location => modify (·.typeGit location)
  | .setZipLocation location skip => modify (·.typeZip location skip)
  | .toggleTemplate name checked => modify (·.toggle name checked)
  | .addFromSource source => do let _ ← add source
  | .renameProject old new => rename old new

/-- Carries commands out in order; the first that is refused ends it. -/
def applyAll : List Command → Attempt (Command × Refusal) Session Unit
  | [] => return ()
  | command :: rest => do
    (apply command).adaptExcept fun r => (command, r)
    applyAll rest

end Session

end ProjectPicker
