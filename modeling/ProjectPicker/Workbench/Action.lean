import ProjectPicker.Channel.Listener
import ProjectPicker.Editor
import ProjectPicker.Source
import ProjectPicker.Stack

/-!
# What can be done with a workbench

* `Workbench.QuietAction` : what nobody else hears of;
* `Workbench.Action` : all that can be done, apart from subscribing a listener;
* `Workbench.Answer`, `Workbench.Fault` : what comes back;
* `Workbench.Step`, `Workbench.LogEntry` : steps with the listeners that react to them, and what is
  written down about those.
-/

set_option autoImplicit false

namespace ProjectPicker.Workbench

/-- What a listener can subscribe to. -/
inductive Topic where
  | projects
  | stackChanges
  deriving DecidableEq, Repr

/-- What can be done with a Git field. -/
inductive GitAction where
  | type (location : String)
  | clear (name : String)
  | push

/-- What can be done with Zip fields. -/
inductive ZipAction where
  | type (location : String)
  | tick (skip : Bool)
  | clear (name : String)
  | push

/-- What can be done with a template selector. -/
inductive SelectorAction where
  | fetch (supply : Option (List Template))
  | fetched
  | stackChanged
  | filter
  | recount
  | click (name : String) (checked : Bool)
  | added (name : String)
  | isChecked (name : String)

/-- What can be done with an editor. -/
inductive EditorAction where
  | change (changes : Template.Changes)
  | announce
  | isFree (name : String)
  | save
  | draft

/-- What an editor is opened on. -/
inductive EditorTarget where
  | template (t : Template)
  | ready (name : String)

/-- What can be done with a workbench without anyone being served. -/
inductive QuietAction where
  | unsubscribe (listener : String)
  | findStack (id : String)
  | choose (templates : List Template)
  | chosen
  | fetch (supply : Option (List Template))
  | setGit (location : String)
  | setZip (location : String) (skip : Bool)
  | gitTemplate
  | zipTemplate
  | update (old : String) (t : Template)
  | remove (name : String)
  | isFree (name except : String)
  | ready
  | edited
  | attachGit (id : String)
  | detachGit (id : String)
  | git (id : String) (action : GitAction)
  | attachZip (id : String)
  | detachZip (id : String)
  | zip (id : String) (action : ZipAction)
  | attachSelector (id : String)
  | detachSelector (id : String)
  | selector (id : String) (action : SelectorAction)
  | openEditor (id : String) (target : EditorTarget)
  | closeEditor (id : String)
  | editor (id : String) (action : EditorAction)

/-- What can be done with a workbench, apart from subscribing a listener. -/
inductive Action where
  | publish (name : String)
  | selectStack (id : Option String)
  | add (source : Source)
  | quiet (action : QuietAction)

/-- What comes back. -/
inductive Answer where
  | done
  | absent
  | flag (b : Bool)
  | count (n : Nat)
  | text (s : String)
  | names (names : List String)
  | template (t : Option Template)
  | templates (ts : List Template)
  | stack (s : Option Stack)

/-- Why a step fails: it is refused, or there was nothing to fetch. -/
inductive Fault where
  | refused (r : Refusal)
  | nothingSupplied
  deriving DecidableEq, Repr

abbrev Outcome := Except Fault Answer
abbrev Step := ProjectPicker.Step Topic Action
abbrev Listener := ProjectPicker.Listener Topic Action
abbrev LogEntry := ProjectPicker.LogEntry Topic Action Outcome

end ProjectPicker.Workbench
