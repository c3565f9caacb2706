import ProjectPicker.Environment.Block
import ProjectPicker.Program

/-!
# The command

* `Machine.here` : the machine that the program runs on; it reaches no web server;
* `main` : runs the program and says how it ended.
-/

set_option autoImplicit false

namespace ProjectPicker

/-- The error of a number that the system gives, which may be negated. -/
def FileError.ofCode (code : UInt32) (details : String) : FileError :=
  match min code (0 - code) with
  | 2 => .missing
  | 17 => .alreadyExists
  | 20 => .notDirectory
  | 21 => .isDirectory
  | 36 => .nameTooLong
  | code => .system details code.toNat

def FileError.ofSystem : IO.Error → FileError
  | .noFileOrDirectory _ code details | .noSuchThing _ code details
  | .alreadyExists _ code details | .inappropriateType _ code details
  | .permissionDenied _ code details | .invalidArgument _ code details
  | .resourceExhausted _ code details | .otherError code details => .ofCode code details
  | e => .system e.toString 5

/-- The machine that the program runs on; it reaches no web server. -/
def Machine.here : Machine IO where
  read path := do
    let octets ← (IO.FS.readBinFile path).toBaseIO
    return (octets.map (·.toList)).mapError FileError.ofSystem
  makeDirectories path := do
    match (← (IO.FS.createDir path).toBaseIO).mapError FileError.ofSystem with
    | .error .missing | .error .alreadyExists =>
      return (← (IO.FS.createDirAll path).toBaseIO).mapError FileError.ofSystem
    | made => return made
  fetch _ _ := return .none

def Environment.here : IO Environment := do
  match ← Machine.here.read "/proc/self/environ" with
  | .ok octets => return .ofBlock octets
  | .error _ => return {}

def usage : String :=
  "Pick project sources for a new workspace\n\nUsage: project-picker <COMMAND>\n\nCommands:\n" ++
  "  templates  List templates matching a stack [--stack <STACK>]\n" ++
  "  run        Replay a YAML script of wizard actions and print the resulting state " ++
  "--script <SCRIPT>\n" ++
  "  help       Print this message\n"

end ProjectPicker

open ProjectPicker in
/-- Runs the program: 2 says that the arguments are wrong, and 1 that it failed. -/
def main (args : List String) : IO UInt32 := do
  match ← Program.run Machine.here args (← Environment.here) with
  | .help =>
    IO.print usage
    return 0
  | .printed text =>
    IO.print text
    return 0
  | .misuse =>
    IO.eprint usage
    return 2
  | .failed f =>
    IO.eprintln f.report
    return 1
