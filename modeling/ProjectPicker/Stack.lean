import ProjectPicker.Template

/-!
# Stacks

* `Stack` : a runtime profile whose tags choose the templates that are listed;
* `Stack.find?` : the stack of an id, where a later stack stands for an earlier one;
* `Stack.activeTags` : the lower-case tags of an id.
-/

set_option autoImplicit false

namespace ProjectPicker

/-- A runtime profile whose tags choose the templates that are listed. -/
structure Stack where
  id : String
  name : String := ""
  tags : List String := []
  deriving DecidableEq, Repr, Inhabited

namespace Stack

/-- The stack of an id; of several stacks with one id the last counts. -/
def find? (stackList : List Stack) (id : String) : Option Stack :=
  stackList.reverse.find? (·.id == id)

/-- The tags of the stack of an id, in lower case; an unknown id has none. -/
def activeTags (stackList : List Stack) (id : String) : List String :=
  match find? stackList id with
  | some stack => lowerTags stack.tags
  | none => []

end Stack

end ProjectPicker
