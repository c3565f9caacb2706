import ProjectPicker.Text.Quoted

/-!
# Outlines of values

* `Outline` : the shape of a value, for messages that show it in full;
* `Outline.render` : its text on one line, as in `Point \x7b x: 1, y: 2 \x7d`.
-/

set_option autoImplicit false

namespace ProjectPicker

/-- The shape of a value: a word, a quoted text, a list, a dictionary, or a constructor with its
arguments or named fields. -/
inductive Outline where
  | word (text : String)
  | quoted (text : String)
  | list (items : List Outline)
  | dictionary (entries : List (String × Outline))
  | application (head : String) (argument : Outline)
  | record (head : String) (fields : List (String × Outline))

namespace Outline

def ofBool (b : Bool) : Outline := .word (if b then "true" else "false")

/-- An optional value is `None`, or its outline inside `Some`. -/
def ofOption {α : Type} (outline : α → Outline) : Option α → Outline
  | none => .word "None"
  | some a => .application "Some" (outline a)

def separated : List String → String
  | [] => ""
  | [s] => s
  | s :: rest => s ++ ", " ++ separated rest

mutual

def render : Outline → String
  | .word text => text
  | .quoted text => Text.quote text
  | .list items => "[" ++ separated (renderList items) ++ "]"
  | .dictionary entries => "\x7b" ++ separated (renderEntries entries) ++ "\x7d"
  | .application head argument => head ++ "(" ++ render argument ++ ")"
  | .record head fields => head ++ " \x7b " ++ separated (renderFields fields) ++ " \x7d"

def renderList : List Outline → List String
  | [] => []
  | o :: rest => render o :: renderList rest

/-- The keys of a dictionary are quoted. -/
def renderEntries : List (String × Outline) → List String
  | [] => []
  | (key, o) :: rest => (Text.quote key ++ ": " ++ render o) :: renderEntries rest

/-- The names of fields are not. -/
def renderFields : List (String × Outline) → List String
  | [] => []
  | (name, o) :: rest => (name ++ ": " ++ render o) :: renderFields rest

end

end Outline

end ProjectPicker
