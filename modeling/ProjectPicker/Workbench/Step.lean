import ProjectPicker.Workbench

/-!
# Steps on a workbench

* `Workbench.takeQuiet` : the steps that nobody else hears of;
* `Workbench.announce`, `Workbench.activate` : the two publications;
* `Workbench.take` : takes a step, where listeners may react to a depth that is given. `none` means
  that their reactions are nested deeper than that.
-/

set_option autoImplicit false

namespace ProjectPicker.Workbench

def attempt {α : Type} (a : Attempt Refusal Board α) (answer : α → Answer) (w : Workbench) :
    Outcome × Workbench :=
  match a.run w.board with
  | .ok x board => (.ok (answer x), { w with board })
  | .error r board => (.error (.refused r), { w with board })

/-- Fetches the catalogue. -/
def fetch (supply : Option (List Template)) (w : Workbench) : Except Fault Workbench :=
  match supply with
  | some catalogue => .ok { w with board := { w.board with catalogue } }
  | none => .error .nothingSupplied

def GitAction.act : GitAction → GitField → Board → GitField × Board
  | .type location => GitField.type location
  | .clear name => GitField.clear name
  | .push => fun f b => (f, f.push b)

def ZipAction.act : ZipAction → ZipField → Board → ZipField × Board
  | .type location => ZipField.type location
  | .tick skip => ZipField.tick skip
  | .clear name => ZipField.clear name
  | .push => fun f b => (f, f.push b)

namespace FieldKind

abbrev Action : FieldKind → Type
  | git => GitAction
  | zip => ZipAction

def act : (kind : FieldKind) → kind.Action → kind.Field → Board → kind.Field × Board
  | git => GitAction.act
  | zip => ZipAction.act

end FieldKind

/-- What a location field does, if there is one of this name. -/
def takeField (kind : FieldKind) (id : String) (action : kind.Action) (w : Workbench) :
    Outcome × Workbench :=
  match w.actOnField kind (·.id == id) (kind.act action) with
  | some w => (.ok .done, w)
  | none => (.ok .absent, w)

def selectorAct : SelectorAction → Selector → Board → Selector × Board
  | .fetch _, s, b => (s.fetched b, b)
  | .fetched, s, b => (s.fetched b, b)
  | .stackChanged, s, b => (s.stackChanged b, b)
  | .filter, s, b => (s.filter, b)
  | .recount, s, b => (s.recount, b)
  | .click name checked, s, b => s.click name checked b
  | .added name, s, b => s.added name b
  | .isChecked _, s, b => (s, b)

/-- What a selector does; to fetch, it first fetches the catalogue onto the board. -/
def takeSelector (id : String) (action : SelectorAction) (w : Workbench) : Outcome × Workbench :=
  match w.selectors.find? (·.id == id) with
  | none => (.ok .absent, w)
  | some a =>
    match action with
    | .isChecked name => (.ok (.flag (a.view.isChecked name)), w)
    | .fetch supply =>
      match w.fetch supply with
      | .error fault => (.error fault, w)
      | .ok w => (.ok .done, (w.actOnSelector (·.id == id) (selectorAct action)).getD w)
    | _ => (.ok .done, (w.actOnSelector (·.id == id) (selectorAct action)).getD w)

def putEditor (w : Workbench) (id : String) (e : Editor) : Workbench :=
  { w with editors := w.editors.filter (·.1 != id) ++ [(id, e)] }

def openEditor (id : String) (t : Template) (w : Workbench) : Outcome × Workbench :=
  match Editor.openOn t with
  | .ok e => (.ok (.text e.knownAs), w.putEditor id e)
  | .error r => (.error (.refused r), w)

def takeEditor (id : String) (action : EditorAction) (w : Workbench) : Outcome × Workbench :=
  match w.editors.lookup id with
  | none => (.ok .absent, w)
  | some e =>
    match action with
    | .change changes => (.ok .done, w.putEditor id (e.change changes))
    | .announce => (.ok .done, { w with board := e.announce w.board })
    | .isFree name => (.ok (.flag (e.isNameFree w.board name)), w)
    | .draft => (.ok (.template (some e.draft)), w)
    | .save =>
      match Editor.save.run (e, w.board) with
      | .ok _ (e, board) => (.ok .done, ({ w with board } : Workbench).putEditor id e)
      | .error r (e, board) => (.error (.refused r), ({ w with board } : Workbench).putEditor id e)

def takeQuiet : QuietAction → Workbench → Outcome × Workbench
  | .unsubscribe name, w =>
    let (earlier, w) := w.release name
    (.ok (.flag earlier), w)
  | .findStack id, w => (.ok (.stack (Stack.find? w.board.stackList id)), w)
  | .choose chosen, w => (.ok .done, { w with board := { w.board with chosen } })
  | .chosen, w => (.ok (.templates w.board.chosen), w)
  | .fetch supply, w =>
    match w.fetch supply with
    | .ok w => (.ok .done, w)
    | .error fault => (.error fault, w)
  | .setGit gitLocation, w => (.ok .done, { w with board := { w.board with gitLocation } })
  | .setZip zipLocation zipSkip, w =>
    (.ok .done, { w with board := { w.board with zipLocation, zipSkip } })
  | .gitTemplate, w => (.ok (.template w.board.gitTemplate?), w)
  | .zipTemplate, w => (.ok (.template w.board.zipTemplate?), w)
  | .update old t, w => attempt (Board.update old t) (fun _ => .done) w
  | .remove name, w => attempt (Board.remove name) (fun t => .template (some t)) w
  | .isFree name except, w => (.ok (.flag (w.board.isFree name except)), w)
  | .ready, w => (.ok (.templates w.board.ready), w)
  | .edited, w => (.ok (.template w.board.edited), w)
  | .attachGit id, w =>
    let (earlier, w) := w.attachField .git id
    (.ok (.flag earlier), w)
  | .detachGit id, w =>
    let (earlier, w) := w.detachField .git id
    (.ok (.flag earlier), w)
  | .git id action, w => takeField .git id action w
  | .attachZip id, w =>
    let (earlier, w) := w.attachField .zip id
    (.ok (.flag earlier), w)
  | .detachZip id, w =>
    let (earlier, w) := w.detachField .zip id
    (.ok (.flag earlier), w)
  | .zip id action, w => takeField .zip id action w
  | .attachSelector id, w =>
    let (earlier, w) := w.attachSelector id
    (.ok (.flag earlier), w)
  | .detachSelector id, w =>
    let (earlier, w) := w.detachSelector id
    (.ok (.flag earlier), w)
  | .selector id action, w => takeSelector id action w
  | .openEditor id target, w =>
    match target with
    | .template t => openEditor id t w
    | .ready name =>
      match ReadyList.find? w.board.ready name with
      | some t => openEditor id t w
      | none => (.ok .absent, w)
  | .closeEditor id, w =>
    (.ok (.flag (w.editors.any (·.1 == id))),
      { w with editors := w.editors.filter (·.1 != id) })
  | .editor id action, w => takeEditor id action w

/-! ## Publications -/

section Nested

variable (nested : Step → Workbench → Option (Outcome × Workbench))

/-- A subscriber hears that a project called `name` was added. -/
def serveProject (name : String) (id : Nat) :
    ProjectSubscriber → Workbench → Option Workbench
  | .field kind, w =>
    some ((w.actOnField kind (·.subscription == id) (kind.clear name)).getD w)
  | .selector, w => some ((w.actOnSelector (·.subscription == id) (Selector.added name)).getD w)
  | .listener l, w => l.hear nested record name w

def stackPayload : String := "stack"

/-- A subscriber hears that the active stack changed. -/
def serveStack (id : Nat) : StackSubscriber → Workbench → Option Workbench
  | .selector, w =>
    some ((w.actOnSelector (·.stackSubscription == id) fun s b => (s.stackChanged b, b)).getD w)
  | .listener l, w => l.hear nested record stackPayload w

/-- Announces that a project called `name` was added, and says how many heard it. -/
def announce (name : String) (w : Workbench) : Option (Nat × Workbench) :=
  projectSlot.publish (serveProject nested name) w

/-- The projects called so were added, in this order. -/
def announceAll : List String → Workbench → Option Workbench
  | [], w => some w
  | name :: rest, w => do
    let (_, w) ← announce nested name w
    announceAll rest w

/-- Makes a stack the active one and tells everyone. Any id is taken. -/
def activate (id : Option String) (w : Workbench) : Option Workbench := do
  let (_, w) ← stackSlot.publish (serveStack nested)
    { w with board := { w.board with activeStack := id } }
  return w

/-- Adds the projects of a source to the ready list and announces each. -/
def add (source : Source) (w : Workbench) : Option (Outcome × Workbench) :=
  match (Board.takeIn source).run w.board with
  | .error r board => some (.error (.refused r), { w with board })
  | .ok names board => do
    let w ← announceAll nested names { w with board }
    return (.ok (.names names), w)

/-- Takes a step; `nested` takes those of the listeners that are served meanwhile. -/
def perform : Step → Workbench → Option (Outcome × Workbench)
  | .subscribe topic name on, w =>
    let (earlier, w) := w.subscribe topic ⟨name, on⟩
    some (.ok (.flag earlier), w)
  | .act (.publish name), w => do
    let (served, w) ← announce nested name w
    return (.ok (.count served), w)
  | .act (.selectStack id), w => do
    let w ← activate nested id w
    return (.ok .done, w)
  | .act (.add source), w => add nested source w
  | .act (.quiet action), w => some (takeQuiet action w)

end Nested

/-- Takes a step whose listeners react to `depth` levels at most. -/
def take : Nat → Step → Workbench → Option (Outcome × Workbench)
  | 0 => perform fun _ _ => none
  | depth + 1 => perform (take depth)

end ProjectPicker.Workbench
