import ProjectPicker.Catalogue.Origin
import ProjectPicker.Environment
import ProjectPicker.Failure
import ProjectPicker.Text.Count

/-!
# Settings

* `Settings` : what the environment tells the program;
* `Settings.ofEnvironment` : reads them;
* `SettingsError` : why they cannot be read.
-/

set_option autoImplicit false

namespace ProjectPicker

/-- What the environment tells the program. -/
structure Settings where
  origin : Origin
  stacksFile : Option String := none
  /-- How long a fetch may take, in milliseconds. -/
  fetchTimeout : Nat := 5000
  logDirectory : Option String := none
  logFilter : String := "debug"
  deriving DecidableEq, Repr

/-- Why settings cannot be read. -/
inductive SettingsError where
  | emptyOrigin
  | timeout (e : Text.CountError)
  | zeroTimeout
  deriving DecidableEq, Repr

/-- The variables that are read. -/
inductive Settings.Variable where
  | origin
  | stacksFile
  | fetchTimeout
  | logDirectory
  | logFilter

def Settings.Variable.name : Variable → String
  | .origin => "WIZARD_TEMPLATES_SOURCE"
  | .stacksFile => "WIZARD_STACKS_FILE"
  | .fetchTimeout => "WIZARD_FETCH_TIMEOUT_MS"
  | .logDirectory => "WIZARD_LOG_DIR"
  | .logFilter => "WIZARD_FILE_LOG"

def SettingsError.failure : SettingsError → Failure
  | .emptyOrigin =>
    Failure.within ("failed to parse " ++ Settings.Variable.origin.name) ⟨Origin.emptyMessage, []⟩
  | .timeout e =>
    Failure.within ("failed to parse " ++ Settings.Variable.fetchTimeout.name ++ " as u64")
      ⟨e.message, []⟩
  | .zeroTimeout => ⟨Settings.Variable.fetchTimeout.name ++ " must be greater than 0", []⟩

namespace Settings

/-- The catalogue that is read when none is named. -/
def defaultOrigin : String := "templates.yaml"

/-- A text without the blanks around it; a blank text is absent. -/
def present? (text : String) : Option String :=
  let trimmed := Text.trim text
  if trimmed.isEmpty then none else some trimmed

def optional (e : Environment) (v : Variable) : Option String := e.text? v.name >>= present?

/-- The timeout, which has to be a positive count. -/
def readTimeout (e : Environment) (default : Nat) : Except SettingsError Nat :=
  match e.text? Variable.fetchTimeout.name with
  | none => .ok default
  | some text =>
    match Text.readCount (Text.trim text) with
    | .error fault => .error (.timeout fault)
    | .ok 0 => .error .zeroTimeout
    | .ok n => .ok n

/-- Reads the settings. A variable that is no text counts as not set; of two faults the one in the
origin decides. -/
def ofEnvironment (e : Environment) : Except SettingsError Settings :=
  match Origin.parse? ((e.text? Variable.origin.name).getD defaultOrigin) with
  | none => .error .emptyOrigin
  | some origin => do
    let defaults : Settings := { origin }
    let fetchTimeout ← readTimeout e defaults.fetchTimeout
    return {
      origin
      stacksFile := optional e .stacksFile
      fetchTimeout
      logDirectory := optional e .logDirectory
      logFilter := (optional e .logFilter).getD defaults.logFilter }

end Settings

end ProjectPicker
