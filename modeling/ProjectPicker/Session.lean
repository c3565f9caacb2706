import ProjectPicker.Channel
import ProjectPicker.Editor
import ProjectPicker.GitField
import ProjectPicker.Selector
import ProjectPicker.ZipField

/-!
# Sessions

* `Session` : a board with its three views, and the channel that announces added projects;
* `Session.start`, `Session.end` : the views are subscribed first and leave last;
* `Session.announce` : a name is published to the views and then to the listeners;
* `Session.load`, `Session.selectStack`, `Session.typeGit`, `Session.typeZip`, `Session.toggle`,
  `Session.add`, `Session.edit`, `Session.save`, `Session.rename` : what the user does.
-/

set_option autoImplicit false

namespace ProjectPicker

/-- Who hears the names of added projects in a session. -/
inductive Session.Subscriber where
  | git
  | zip
  | selector
  | listener (name : String)
  deriving DecidableEq, Repr

/-- What was sent in a session: the name of an added project to a subscriber, or that the active
stack changed to the selector. -/
inductive Session.Notice where
  | heard (who : Session.Subscriber) (name : String)
  | stackChanged
  deriving DecidableEq, Repr

/-- A board with its three views. -/
structure Session where
  board : Board
  git : GitField
  zip : ZipField
  selector : Selector
  channel : Channel Session.Subscriber := .empty
  notices : List Session.Notice := []

namespace Session

def slot : Slot Session Subscriber where
  get s := s.channel
  set channel s := { s with channel }

def start (stackList : List Stack) : Session :=
  let board : Board := { stackList }
  { board
    git := GitField.attach board
    zip := ZipField.attach board
    selector := Selector.attach board
    channel := ((Channel.empty.subscribe .git).subscribe .zip).subscribe .selector }

def note (s : Session) (who : Subscriber) (name : String) : Session :=
  { s with notices := s.notices ++ [.heard who name] }

def react (s : Session) (name : String) : Subscriber → Session
  | .git =>
    let (git, board) := s.git.clear name s.board
    { s with git, board }
  | .zip =>
    let (zip, board) := s.zip.clear name s.board
    { s with zip, board }
  | .selector =>
    let (selector, board) := s.selector.added name s.board
    { s with selector, board }
  | .listener _ => s

def serve (name : String) (_ : Nat) (who : Subscriber) (s : Session) : Id Session :=
  (s.note who name).react name who

/-- Announces that a project called `name` was added, and says how many heard it. -/
def announce (s : Session) (name : String) : Nat × Session := slot.publish (serve name) s

def announceAll (s : Session) (names : List String) : Session :=
  names.foldl (fun s name => (s.announce name).2) s

/-- A listener joins; one of the same name leaves after that. -/
def listen (s : Session) (name : String) : Session :=
  let earlier := s.channel.subscribers.filter fun x => x.2 == .listener name
  { s with
    channel := earlier.foldl (fun c x => c.unsubscribe x.1) (s.channel.subscribe (.listener name)) }

def unlisten (s : Session) (name : String) : Bool × Session :=
  let earlier := s.channel.subscribers.filter fun x => x.2 == .listener name
  (!earlier.isEmpty,
    { s with channel := earlier.foldl (fun c x => c.unsubscribe x.1) s.channel })

/-- What is left of the channel when the session ends: the three views leave. -/
def finish (s : Session) : Channel Subscriber :=
  { s.channel with
    subscribers := s.channel.subscribers.filter fun x =>
      x.2 != .git && x.2 != .zip && x.2 != .selector }

def onBoard {ε α : Type} (a : Attempt ε Board α) : Attempt ε Session α :=
  a.within (·.board) fun board s => { s with board }

def load {ε : Type} (fetched : Except ε (List Template)) : Attempt ε Session Unit := do
  let catalogue ← .ofExcept fetched
  onBoard (modify fun b => { b with catalogue })
  modify fun s => { s with selector := s.selector.fetched s.board }

/-- Makes a stack the active one, or none, and tells the selector. -/
def activate (s : Session) (id : Option String) : Session :=
  let board := { s.board with activeStack := id }
  { s with
    board
    selector := s.selector.stackChanged board
    notices := s.notices ++ [.stackChanged] }

/-- A stack becomes the active one, or none does. An unknown stack is refused. -/
def selectStack (id : Option String) : Attempt Refusal Session Unit := do
  let s ← get
  if let some id := id then
    .require (Stack.find? s.board.stackList id).isSome (.unknownStack id)
  modify (·.activate id)

def typeGit (s : Session) (location : String) : Session :=
  let (git, board) := s.git.type location s.board
  { s with git, board }

/-- A Zip location is typed and the flag is set: two changes, one after the other. -/
def typeZip (s : Session) (location : String) (skip : Bool) : Session :=
  let (zip, board) := s.zip.type location s.board
  let (zip, board) := zip.tick skip board
  { s with zip, board }

def toggle (s : Session) (name : String) (checked : Bool) : Session :=
  let (selector, board) := s.selector.click name checked s.board
  { s with selector, board }

def add (source : Source) : Attempt Refusal Session (List String) := do
  let names ← onBoard (Board.takeIn source)
  modify (·.announceAll names)
  return names

def edit (name : String) : Attempt Refusal Session Editor := do
  let s ← get
  match ReadyList.find? s.board.ready name with
  | some t => .ofExcept (Editor.openOn t)
  | none => throw (.unknownProject name)

def save : Attempt Refusal (Editor × Session) Unit :=
  Editor.save.within (fun (e, s) => (e, s.board)) fun (e, board) (_, s) => (e, { s with board })

/-- Gives a project another name, and the path that goes with it. -/
def rename (old new : String) : Attempt Refusal Session Unit := do
  let e ← edit old
  let s ← get
  .require (e.isNameFree s.board new) (.duplicateProjectName new)
  save.withOwn { e with draft := { e.draft with name := new, path := "/" ++ new } }

end Session

end ProjectPicker
