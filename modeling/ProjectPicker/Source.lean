import ProjectPicker.Text.Blank
import ProjectPicker.Text.LowerCase

/-!
# Sources of projects

* `Source` : where the projects of an import come from;
* `Source.word` : its name; `Source.ofWord?` reads it back;
* `Source.parse` : reads what a user may type for it.
-/

set_option autoImplicit false

namespace ProjectPicker

/-- Where the projects of an import come from. -/
inductive Source where
  | templates
  | git
  | zip
  deriving DecidableEq, Repr, Inhabited

namespace Source

def word : Source → String
  | .templates => "templates"
  | .git => "git"
  | .zip => "zip"

def ofWord? : String → Option Source
  | "templates" => some .templates
  | "git" => some .git
  | "zip" => some .zip
  | _ => none

theorem ofWord?_word (s : Source) : ofWord? s.word = some s := by cases s <;> rfl

/-- The sources in the order in which they are numbered. -/
def all : List Source := [.templates, .git, .zip]

/-- Reads what a user may type: blanks around it and the case of its letters do not count, and
`samples` stands for the templates. The error is the text that was not understood. -/
def parse (text : String) : Except String Source :=
  let typed := Text.lowerAscii (Text.trim text)
  if typed == "samples" then .ok .templates
  else match ofWord? typed with
    | some source => .ok source
    | none => .error typed

def parseMessage (typed : String) : String :=
  "invalid project source `" ++ typed ++ "`; expected `templates`, `git` or `zip`"

end Source

end ProjectPicker
