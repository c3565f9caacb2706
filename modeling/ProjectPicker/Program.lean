import ProjectPicker.Command.Written
import ProjectPicker.CommandLine
import ProjectPicker.Environment.File
import ProjectPicker.Files
import ProjectPicker.Loading
import ProjectPicker.LogFilter
import ProjectPicker.Session.Summary
import ProjectPicker.Settings

/-!
# The program

* `Machine` : what the program needs of the machine that it runs on, in a monad;
* `Machine.ofFiles` : a machine whose files are a value, for a program that changes nothing else;
* `Outcome` : how the program ends;
* `Program.run` : the program. Settings come first, then the log, then the arguments; stacks are
  read before the catalogue is fetched, and a script only after that.
-/

set_option autoImplicit false

namespace ProjectPicker

/-- What the program needs of the machine that it runs on. -/
structure Machine (m : Type → Type) where
  /-- The octets of a file. -/
  read : String → m (Except FileError (List UInt8))
  /-- Makes a directory and those around it. -/
  makeDirectories : String → m (Except FileError Unit)
  /-- The reply of a web server that is given a time, in milliseconds. -/
  fetch : Url → Nat → m Reply

/-- A machine whose files are a value, and which reaches no web server. -/
def Machine.ofFiles : Machine (StateM Files) where
  read path := fun files => (files.read path, files)
  makeDirectories path := fun files =>
    match files.makeDirectories path with
    | .ok files => (.ok (), files)
    | .error e => (.error e, files)
  fetch _ _ := return .none

/-- How the program ends. -/
inductive Outcome where
  | help
  | misuse
  | printed (text : String)
  | failed (f : Failure)
  deriving DecidableEq, Repr

namespace Program

variable {m : Type → Type} [Monad m] (machine : Machine m)

def environmentFile : String := ".env"

/-- The environment with the variables of its file, if there is one. -/
def loadEnvironment (e : Environment) : m Environment := do
  match ← machine.read environmentFile with
  | .ok octets => return e.load octets
  | .error _ => return e

/-- Prepares the directory of the log and checks the filter, if there is to be a log. -/
def prepareLog (settings : Settings) : ExceptT Failure m Unit := do
  match settings.logDirectory with
  | none => return ()
  | some directory =>
    match ← (machine.makeDirectories directory : m _) with
    | .error e =>
      throw (Failure.within ("failed to create log dir `" ++ directory ++ "`") ⟨e.message, []⟩)
    | .ok () =>
      if LogFilter.isValid settings.logFilter then return ()
      else throw ⟨"failed to parse " ++ Settings.Variable.logFilter.name, []⟩

/-- The stacks of the settings; without a file there are none. -/
def loadStacks (settings : Settings) : ExceptT Failure m (List Stack) := do
  match settings.stacksFile with
  | none => return []
  | some path =>
    let octets ← (machine.read path : m _)
    ExceptT.mk (pure (Stack.ofFile path octets))

def fetchCatalogue (timeout : Nat) : Registry → m (Except CatalogueError (List Template))
  | .file path => do
    let octets ← machine.read path
    return Catalogue.ofFile path octets
  | .http url => do
    let reply ← machine.fetch url timeout
    return Catalogue.ofReply url reply

def openSession (settings : Settings) : ExceptT Failure m Session := do
  let stackList ← loadStacks machine settings
  match Registry.ofOrigin settings.origin with
  | .error e => throw e.failure
  | .ok registry =>
    let fetched ← (fetchCatalogue machine settings.fetchTimeout registry : m _)
    match (Session.load fetched).run (Session.start stackList) with
    | .ok _ s => return s
    | .error e _ =>
      throw (Failure.within ("failed to fetch templates from " ++ settings.origin.text) e.failure)

/-- A listed template: its name, type and display name between tabs. -/
def templateLine (t : Template) : String :=
  t.name ++ "\t" ++ t.projectType ++ "\t" ++ t.displayName ++ "\n"

/-- The templates that are listed for a stack, or when no stack is active. -/
def listTemplates (s : Session) (stack : Option String) : Except Failure String :=
  match (Session.selectStack stack).run s with
  | .ok _ s => .ok (String.join (s.selector.listed.map templateLine))
  | .error r _ => .error ⟨r.message, []⟩

def replay (s : Session) (script : Script) : Except Failure String :=
  match (Session.applyAll script.commands).run s with
  | .ok _ s => .ok (s.summary.pretty ++ "\n")
  | .error (command, r) _ =>
    .error (Failure.within ("wizard command failed: " ++ command.outline.render) ⟨r.message, []⟩)

/-- Does what the user asks for in a session. -/
def answer (s : Session) : Request → ExceptT Failure m String
  | .templates stack => ExceptT.mk (pure (listTemplates s stack))
  | .run path => do
    let octets ← (machine.read path : m _)
    let script ← ExceptT.mk (pure (Script.ofFile path octets))
    ExceptT.mk (pure (replay s script))

/-- The program up to its first failure. -/
def attempt (args : List String) (e : Environment) : ExceptT Failure m Outcome := do
  let e ← (loadEnvironment machine e : m _)
  match Settings.ofEnvironment e with
  | .error fault => throw (Failure.within "failed to load configuration" fault.failure)
  | .ok settings =>
    prepareLog machine settings
    match Invocation.parse args with
    | .help => return .help
    | .misuse => return .misuse
    | .request r =>
      let s ← openSession machine settings
      let text ← answer machine s r
      return .printed text

/-- The program. -/
def run (args : List String) (e : Environment) : m Outcome := do
  match ← (attempt machine args e).run with
  | .ok outcome => return outcome
  | .error f => return .failed f

end Program

end ProjectPicker
