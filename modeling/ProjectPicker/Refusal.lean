import ProjectPicker.Source

/-!
# Refusals

* `Refusal` : why an operation on the projects to import is refused;
* `Refusal.message` : the words for it.
-/

set_option autoImplicit false

namespace ProjectPicker

/-- Why an operation on the projects to import is refused. -/
inductive Refusal where
  | missingTemplateName
  | invalidProjectName (name : String)
  | duplicateProjectName (name : String)
  | unknownProject (name : String)
  | emptyLocation (source : Source)
  | noTemplatesSelected
  | unknownStack (id : String)
  deriving DecidableEq, Repr

def Refusal.message : Refusal → String
  | .missingTemplateName => "project template must have a name before its metadata can be edited"
  | .invalidProjectName name => "invalid project name `" ++ name ++ "`"
  | .duplicateProjectName name => "project `" ++ name ++ "` is already in the ready-to-import list"
  | .unknownProject name => "project `" ++ name ++ "` is not in the ready-to-import list"
  | .emptyLocation source => source.word ++ " location is empty or does not name a project"
  | .noTemplatesSelected => "no project templates are selected"
  | .unknownStack id => "unknown stack `" ++ id ++ "`"

end ProjectPicker
