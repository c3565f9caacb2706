/-!
# Failures

* `Failure` : what went wrong, in the words shown to the user, with its causes;
* `Failure.within` : the failure of something larger that this one is the cause of;
* `Failure.report` : shows it with its causes, which are numbered if there are several.
-/

set_option autoImplicit false

namespace ProjectPicker

/-- What went wrong, with its causes, the nearest first. -/
structure Failure where
  message : String
  causes : List String := []
  deriving DecidableEq, Repr

namespace Failure

/-- The failure of something larger that this one is the cause of. -/
def within (message : String) (f : Failure) : Failure := ⟨message, f.message :: f.causes⟩

def causeLine (number : String) (cause : String) : String := "\n    " ++ number ++ cause

/-- The failure with its causes, which are numbered if there are several. -/
def report (f : Failure) : String :=
  let causes := match f.causes with
    | [] => []
    | [cause] => ["\n\nCaused by:", causeLine "" cause]
    | causes => "\n\nCaused by:" :: causes.mapIdx fun i cause =>
        causeLine (toString i ++ ": ") cause
  "Error: " ++ f.message ++ String.join causes

end Failure

end ProjectPicker
