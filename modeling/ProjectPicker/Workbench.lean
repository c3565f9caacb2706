import ProjectPicker.Channel
import ProjectPicker.GitField
import ProjectPicker.Selector
import ProjectPicker.Workbench.Action
import ProjectPicker.ZipField

/-!
# Workbenches

* `Workbench` : a board with any number of views and listeners, which come and go at any time, also
  while others are being served;
* `Workbench.FieldKind` : the Git field and the Zip fields do the same things, each in its own way;
* `Workbench.actOnField`, `Workbench.actOnSelector` : a view acts on itself and the board;
* `Workbench.attachField`, `Workbench.detachField` and so on : views join and leave;
* `Workbench.subscribe`, `Workbench.release` : listeners join and leave.

A view is known to the channels by the number of its subscription. A view that has left is served
no more, even if a publication that began before still has it on its list.
-/

set_option autoImplicit false

namespace ProjectPicker

namespace Workbench

/-- The views on the location of a source. -/
inductive FieldKind where
  | git
  | zip
  deriving DecidableEq, Repr

namespace FieldKind

abbrev Field : FieldKind → Type
  | git => GitField
  | zip => ZipField

def attach : (kind : FieldKind) → Board → kind.Field
  | git => GitField.attach
  | zip => ZipField.attach

def clear (name : String) : (kind : FieldKind) → kind.Field → Board → kind.Field × Board
  | git => GitField.clear name
  | zip => ZipField.clear name

end FieldKind

/-- Who hears the names of added projects. -/
inductive ProjectSubscriber where
  | field (kind : FieldKind)
  | selector
  | listener (l : Listener)

/-- Who hears that the active stack changed. -/
inductive StackSubscriber where
  | selector
  | listener (l : Listener)

/-- A view under its name, with the number of its subscription to the added projects. -/
structure Attached (φ : Type) where
  id : String
  subscription : Nat
  view : φ

/-- A template selector, which also subscribes to the stack changes. -/
structure AttachedSelector extends Attached Selector where
  stackSubscription : Nat

end Workbench

/-- A board with any number of views and listeners. -/
structure Workbench where
  board : Board := {}
  projects : Channel Workbench.ProjectSubscriber := .empty
  stackChanges : Channel Workbench.StackSubscriber := .empty
  gitFields : List (Workbench.Attached GitField) := []
  zipFields : List (Workbench.Attached ZipField) := []
  selectors : List Workbench.AttachedSelector := []
  editors : List (String × Editor) := []
  /-- The subscriptions of listeners, each under the listener's name. -/
  held : List (String × Workbench.Topic × Nat) := []
  log : List Workbench.LogEntry := []

namespace Workbench

def start (stackList : List Stack) : Workbench := { board := { stackList } }

def projectSlot : Slot Workbench ProjectSubscriber where
  get w := w.projects
  set projects w := { w with projects }

def stackSlot : Slot Workbench StackSubscriber where
  get w := w.stackChanges
  set stackChanges w := { w with stackChanges }

def record (entry : LogEntry) (w : Workbench) : Workbench := { w with log := w.log ++ [entry] }

/-! ## Views -/

/-- Lets the first of these with `p` act on itself and the board; `none` when there is none. -/
def actOn {α : Type} (p : α → Bool) (act : α → Board → α × Board) :
    List α → Board → Option (List α × Board)
  | [], _ => none
  | a :: rest, b =>
    if p a then
      let (a, b) := act a b
      some (a :: rest, b)
    else (actOn p act rest b).map fun r => (a :: r.1, r.2)

/-- A view acts; its name and its subscription stay. -/
def Attached.act {φ : Type} (act : φ → Board → φ × Board) (a : Attached φ) (b : Board) :
    Attached φ × Board :=
  let (view, b) := act a.view b
  ({ a with view }, b)

@[inherit_doc Attached.act]
def AttachedSelector.act (act : Selector → Board → Selector × Board) (a : AttachedSelector)
    (b : Board) : AttachedSelector × Board :=
  let (toAttached, b) := a.toAttached.act act b
  ({ a with toAttached }, b)

def fields (w : Workbench) : (kind : FieldKind) → List (Attached kind.Field)
  | .git => w.gitFields
  | .zip => w.zipFields

def setFields (w : Workbench) : (kind : FieldKind) → List (Attached kind.Field) → Workbench
  | .git, gitFields => { w with gitFields }
  | .zip, zipFields => { w with zipFields }

def actOnField (w : Workbench) (kind : FieldKind) (p : Attached kind.Field → Bool)
    (act : kind.Field → Board → kind.Field × Board) : Option Workbench :=
  (actOn p (Attached.act act) (w.fields kind) w.board).map fun (views, board) =>
    ({ w with board } : Workbench).setFields kind views

def actOnSelector (w : Workbench) (p : AttachedSelector → Bool)
    (act : Selector → Board → Selector × Board) : Option Workbench :=
  (actOn p (AttachedSelector.act act) w.selectors w.board).map fun (selectors, board) =>
    { w with selectors, board }

/-- A location field leaves, and ends its subscription. -/
def detachField (w : Workbench) (kind : FieldKind) (id : String) : Bool × Workbench :=
  match (w.fields kind).find? (·.id == id) with
  | some a =>
    let views := (w.fields kind).filter (·.subscription != a.subscription)
    let projects := w.projects.unsubscribe a.subscription
    (true, ({ w with projects } : Workbench).setFields kind views)
  | none => (false, w)

/-- A location field joins, and subscribes to the added projects; one of the same name leaves after
that. -/
def attachField (w : Workbench) (kind : FieldKind) (id : String) : Bool × Workbench :=
  let joined : Attached kind.Field := ⟨id, w.projects.nextId, kind.attach w.board⟩
  let (earlier, w) :=
    ({ w with projects := w.projects.subscribe (.field kind) } : Workbench).detachField kind id
  (earlier, w.setFields kind (w.fields kind ++ [joined]))

/-- A selector leaves, and ends both its subscriptions. -/
def detachSelector (w : Workbench) (id : String) : Bool × Workbench :=
  match w.selectors.find? (·.id == id) with
  | some a =>
    (true,
      { w with
        selectors := w.selectors.filter (·.subscription != a.subscription)
        stackChanges := w.stackChanges.unsubscribe a.stackSubscription
        projects := w.projects.unsubscribe a.subscription })
  | none => (false, w)

/-- A selector joins, and subscribes to the stack changes and to the added projects; one of the
same name leaves after that. -/
def attachSelector (w : Workbench) (id : String) : Bool × Workbench :=
  let joined : AttachedSelector :=
    { id
      subscription := w.projects.nextId
      stackSubscription := w.stackChanges.nextId
      view := Selector.attach w.board }
  let (earlier, w) := ({ w with
    stackChanges := w.stackChanges.subscribe .selector
    projects := w.projects.subscribe .selector } : Workbench).detachSelector id
  (earlier, { w with selectors := w.selectors ++ [joined] })

/-! ## Listeners -/

def release (w : Workbench) (name : String) : Bool × Workbench :=
  match w.held.lookup name with
  | some (topic, id) =>
    let w := { w with held := w.held.filter (·.1 != name) }
    match topic with
    | .projects => (true, { w with projects := w.projects.unsubscribe id })
    | .stackChanges => (true, { w with stackChanges := w.stackChanges.unsubscribe id })
  | none => (false, w)

/-- Subscribes a listener. A subscription held under its name before is ended after that. -/
def subscribe (w : Workbench) (topic : Topic) (l : Listener) : Bool × Workbench :=
  match topic with
  | .projects =>
    let id := w.projects.nextId
    let (earlier, w) :=
      ({ w with projects := w.projects.subscribe (.listener l) } : Workbench).release l.name
    (earlier, { w with held := w.held ++ [(l.name, .projects, id)] })
  | .stackChanges =>
    let id := w.stackChanges.nextId
    let (earlier, w) :=
      ({ w with stackChanges := w.stackChanges.subscribe (.listener l) } : Workbench).release l.name
    (earlier, { w with held := w.held ++ [(l.name, .stackChanges, id)] })

end Workbench

end ProjectPicker
