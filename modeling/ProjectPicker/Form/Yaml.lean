import ProjectPicker.Yaml.Document
import ProjectPicker.Yaml.Scalar

/-!
# YAML as a form

* `Decoding` : decoding counts how many aliases it has followed;
* `Node.mismatch` : the error where another type is wanted;
* `Document.resolve` : the value that an alias stands for;
* `Document.form` : YAML as a form. A record is always a mapping;
* `decode` : the value of a type in a text.

Tags matter only where a value says itself what it is. Where no value is written there may be an
empty list or an empty record.
-/

set_option autoImplicit false

namespace ProjectPicker.Yaml

/-- Decoding counts how many aliases it has followed. -/
abbrev Decoding := StateT Nat (Except DecodeError)

namespace Node

/-- The error where another type is wanted. A scalar whose tag asks for a type that it is not of is
a wrong value, and what cannot be read is malformed. -/
def mismatch : Node → DecodeError
  | .scalar tag s plain =>
    match scalarContent tag s plain with
    | .error e => e
    | .ok _ => .invalidType
  | .sequence _ _ => .invalidType
  | .mapping _ _ => .invalidType
  | _ => .malformed

def isNothing : Node → Bool
  | .void => true
  | .scalar _ s plain => s.isEmpty && plain
  | _ => false

mutual

/-- Whether a value can be read to its end. -/
def isComplete : Node → Bool
  | .cut => false
  | .sequence _ items => areComplete items
  | .mapping _ entries => areEntriesComplete entries
  | _ => true

def areComplete : List Node → Bool
  | [] => true
  | n :: rest => isComplete n && areComplete rest

def areEntriesComplete : List (Node × Node) → Bool
  | [] => true
  | (key, value) :: rest => isComplete key && isComplete value && areEntriesComplete rest

end

def isAbsentScalar (tag : Option Tag) (s : String) (plain : Bool) : Except DecodeError Bool :=
  if !plain then .ok false
  else match tag with
    | none => .ok (s.isEmpty || isNull s)
    | some tag =>
      if tag == Tag.ofCore "null" then
        if isNull s then .ok true else .error .invalidValue
      else .ok false

/-- Nothing is attached to the name in a tag. -/
def toNothing : Node → Except DecodeError Unit
  | .scalar _ s plain =>
    if plain && (s.isEmpty || isNull s) then .ok () else .error .invalidValue
  | .sequence _ _ => .error .invalidType
  | .mapping _ _ => .error .invalidType
  | _ => .error .malformed

end Node

namespace Document

variable (d : Document)

/-- How many aliases may be followed, for each beginning and end of a value in the text. -/
def maxJumps : Nat := 100

/-- The value that an alias stands for; every other value stands for itself. -/
def resolve (n : Node) : Decoding Node :=
  match n with
  | .alias target => do
    let jumps ← get
    if maxJumps * d.events < jumps + 1 then throw .malformed
    set (jumps + 1)
    match d.targets.lookup target with
    | some n => return n
    | none => throw .malformed
  | n => return n

def toText (n : Node) : Decoding String := do
  match ← d.resolve n with
  | .scalar _ s _ => return s
  | n => throw n.mismatch

def toItems (n : Node) : Decoding (List Node) := do
  match ← d.resolve n with
  | .sequence _ items => return items
  | n => if n.isNothing then return [] else throw n.mismatch

def toEntries (n : Node) : Decoding (List (Node × Node)) := do
  match ← d.resolve n with
  | .mapping _ entries => return entries
  | n => if n.isNothing then return [] else throw n.mismatch

def toFields (n : Node) : Decoding (Fields Node) := do
  let entries ← d.toEntries n
  return .named entries

def toOptional (n : Node) : Decoding (Option Node) := do
  match ← d.resolve n with
  | .void => return none
  | .scalar tag s plain =>
    if ← Node.isAbsentScalar tag s plain then return none else return some (.scalar tag s plain)
  | .cut => throw .malformed
  | n => return some n

def skip (n : Node) : Decoding Unit :=
  if n.isComplete then pure () else throw .malformed

/-- A word is the name in a tag, or else the text of a scalar. -/
def toWord (n : Node) : Decoding (String × Decoding Unit) := do
  let n ← d.resolve n
  match n.tagName? with
  | some name => return (name, n.toNothing)
  | none =>
    match n with
    | .scalar _ s _ => return (s, pure ())
    | n => throw n.mismatch

/-- A record whose first look decides what it is. A name in its tag is none of its types. -/
def toTagged (n : Node) : Decoding (Fields Node) := do
  let n ← d.resolve n
  if n.tagName?.isSome then throw .invalidType
  match n with
  | .sequence _ items => return .positional items
  | .mapping _ entries => return .named entries
  | .void => throw .invalidType
  | n => throw n.mismatch

def toContent : Nat → Node → Decoding Content
  | 0, n => do
    let n ← d.resolve n
    if n.tagName?.isSome then throw .malformed
    match n with
    | .scalar tag s plain => scalarContent tag s plain
    | .void => return .unit
    | _ => throw .malformed
  | depth + 1, n => do
    let n ← d.resolve n
    if n.tagName?.isSome then throw .malformed
    match n with
    | .scalar tag s plain => scalarContent tag s plain
    | .sequence _ items =>
      let items ← items.mapM (toContent depth)
      return .list items
    | .mapping _ entries =>
      let entries ← entries.mapM fun (key, value) => do
        let key ← toContent depth key
        let value ← toContent depth value
        return (key, value)
      return .dictionary entries
    | .void => return .unit
    | _ => throw .malformed

def form : Form Node Decoding where
  text := d.toText
  items := d.toItems
  entries := d.toEntries
  fields := d.toFields
  fieldName := d.toText
  optional := d.toOptional
  skip := skip
  word := d.toWord
  tagged := d.toTagged
  content := d.toContent
  maxDepth := 128

end Document

def decode {α : Type} (decoder : Form Node Decoding → Node → Decoding α) (text : String) :
    Except DecodeError α := do
  let d := Document.read text
  let (a, _) ← (decoder d.form d.root).run 0
  if d.isWhole then return a else throw .malformed

end ProjectPicker.Yaml
