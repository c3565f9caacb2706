/-!
# The command line

* `Request` : what the user asks for;
* `Invocation` : a request, a call for help, or a misuse;
* `Invocation.parse` : reads the arguments from left to right, and the first that is wrong decides.
-/

set_option autoImplicit false

namespace ProjectPicker

/-- What the user asks for: the templates of a stack, or the outcome of a script. -/
inductive Request where
  | templates (stack : Option String)
  | run (script : String)
  deriving DecidableEq, Repr

/-- What the arguments say. -/
inductive Invocation where
  | request (r : Request)
  | help
  | misuse
  deriving DecidableEq, Repr

namespace Invocation

/-- Whether an argument begins an option; a lone dash does not. -/
def isOption (arg : String) : Bool := arg.toList.head? == some '-' && arg != "-"

def isHelp (arg : String) : Bool := arg == "--help" || "-h".toList.isPrefixOf arg.toList

/-- The value after `option=`, if the argument is of that form. -/
def attached? (option arg : String) : Option String :=
  if (option ++ "=").toList.isPrefixOf arg.toList then
    some (String.ofList (arg.toList.drop (option.length + 1)))
  else none

/-- The options of a command: one that may be given once, and help. `accepts` says which values it
takes, and `finish` what the command asks for. -/
def parseOption (option : String) (accepts : String → Bool) (finish : Option String → Invocation)
    (given : Option String) : List String → Invocation
  | [] => finish given
  | ["--"] => finish given
  | arg :: rest =>
    if isHelp arg then .help
    else match attached? option arg with
      | some value =>
        if given.isNone && accepts value then parseOption option accepts finish (some value) rest
        else .misuse
      | none =>
        if arg != option then .misuse
        else match rest with
          | [] => .misuse
          | value :: rest =>
            if given.isNone && !isOption value && accepts value then
              parseOption option accepts finish (some value) rest
            else .misuse

/-- Any value is taken for a stack. -/
def parseTemplates : List String → Invocation :=
  parseOption "--stack" (fun _ => true) (fun stack => .request (.templates stack)) none

/-- A script is needed, and has a path that is not empty. -/
def parseRun : List String → Invocation :=
  parseOption "--script" (!·.isEmpty)
    (fun script => match script with
      | some path => .request (.run path)
      | none => .misuse) none

def parseHelp : List String → Invocation
  | [] => .help
  | [command] => if ["templates", "run", "help"].contains command then .help else .misuse
  | _ => .misuse

def parse : List String → Invocation
  | "templates" :: rest => parseTemplates rest
  | "run" :: rest => parseRun rest
  | "help" :: rest => parseHelp rest
  | arg :: _ => if isHelp arg then .help else .misuse
  | [] => .misuse

end Invocation

end ProjectPicker
