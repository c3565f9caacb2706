import ProjectPicker.DecodeError

/-!
# Forms: how a format presents its values

* `Content` : a value of no particular type, free of its format;
* `Fields` : the fields of a record, by name or by position;
* `Form` : the ways to look at a value of a format. A decoder is written once, against a form;
* `Form.once`, `Form.required` : the fields that a decoder by name has met;
* `Form.next`, `Form.nextOr`, `Form.done` : the values that a decoder by position has before it;
* `Form.texts`, `Form.list` : lists.

Decoders look at a value from left to right, so of two faults the one further left decides.
-/

set_option autoImplicit false

namespace ProjectPicker

/-- A value of no particular type. An `index` is a number that can stand for a field or a variant
by its position; every other number is a `number`. -/
inductive Content where
  | unit
  | bool (b : Bool)
  | index (n : Nat)
  | number
  | text (s : String)
  | list (items : List Content)
  | dictionary (entries : List (Content × Content))
  deriving Inhabited

/-- The fields of a record, by name or by position. -/
inductive Fields (ν : Type) where
  | named (entries : List (ν × ν))
  | positional (values : List ν)

/-- The ways to look at a value `ν` of a format, in a monad that can fail. -/
structure Form (ν : Type) (m : Type → Type) where
  /-- A text is wanted. -/
  text : ν → m String
  /-- A list is wanted. -/
  items : ν → m (List ν)
  /-- A dictionary is wanted. -/
  entries : ν → m (List (ν × ν))
  /-- A record is wanted. -/
  fields : ν → m (Fields ν)
  /-- The name of a field is wanted. -/
  fieldName : ν → m String
  /-- A value is wanted that may be absent. -/
  optional : ν → m (Option ν)
  /-- The value is not wanted, but must be there. -/
  skip : ν → m Unit
  /-- One of several words is wanted: the word, and the check that nothing is attached to it. -/
  word : ν → m (String × m Unit)
  /-- A record is wanted whose first look decides what it is. -/
  tagged : ν → m (Fields ν)
  /-- Any value is wanted, nested to a depth at most. -/
  content : Nat → ν → m Content
  /-- How many levels a value may have. -/
  maxDepth : Nat

namespace Form

variable {m : Type → Type} [Monad m] [MonadExcept DecodeError m]

/-- Refuses a field that was met before. -/
def once {α : Type} (name : String) (met : Option α) : m Unit :=
  match met with
  | some _ => throw (.duplicateField name)
  | none => pure ()

def required {α : Type} (name : String) : Option α → m α
  | some a => pure a
  | none => throw (.missingField name)

def next {ν α : Type} (decode : ν → m α) : List ν → m (α × List ν)
  | [] => throw .invalidLength
  | v :: rest => do
    let a ← decode v
    return (a, rest)

/-- The next value by position, or `default` after the last. -/
def nextOr {ν α : Type} (default : α) (decode : ν → m α) : List ν → m (α × List ν)
  | [] => pure (default, [])
  | v :: rest => do
    let a ← decode v
    return (a, rest)

/-- No value by position may be left over. -/
def done {ν : Type} (rest : List ν) : m Unit :=
  if rest.isEmpty then pure () else throw .malformed

def list {ν α : Type} (F : Form ν m) (decode : ν → m α) (n : ν) : m (List α) := do
  let items ← F.items n
  items.mapM decode

def texts {ν : Type} (F : Form ν m) (n : ν) : m (List String) := F.list F.text n

end Form

end ProjectPicker
