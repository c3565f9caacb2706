import ProjectPicker.Text.Utf8

/-!
# Nodes of YAML

* `Tag` : what a value is said to be;
* `Node` : a value as far as its text can be read. `cut` stands where the text stops being YAML,
  and `void` for a text without any value.
-/

set_option autoImplicit false

namespace ProjectPicker.Yaml

/-- What a value is said to be, in octets. -/
abbrev Tag := List UInt8

namespace Tag

def ofText (s : String) : Tag := s.toUTF8.toList

/-- The tags of the types that every YAML text may use begin with this. -/
def core : Tag := ofText "tag:yaml.org,2002:"

def ofCore (name : String) : Tag := core ++ ofText name

/-- The name in a tag of the form `!name`. -/
def name? : Tag → Option String
  | 33 :: octets => Text.decode? octets
  | _ => none

end Tag

/-- A value as far as its text can be read. -/
inductive Node where
  | scalar (tag : Option Tag) (text : String) (plain : Bool)
  | sequence (tag : Option Tag) (items : List Node)
  | mapping (tag : Option Tag) (entries : List (Node × Node))
  /-- Stands for the value with this number. -/
  | alias (target : Nat)
  | void
  | cut
  deriving Inhabited

namespace Node

def empty : Node := .scalar none "" true

def tag? : Node → Option Tag
  | .scalar tag _ _ => tag
  | .sequence tag _ => tag
  | .mapping tag _ => tag
  | _ => none

def tagName? (n : Node) : Option String := n.tag? >>= Tag.name?

end Node

end ProjectPicker.Yaml
