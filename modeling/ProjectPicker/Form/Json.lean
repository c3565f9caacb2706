import ProjectPicker.Form
import ProjectPicker.Json.Reader
import ProjectPicker.Text.Count

/-!
# JSON as a form

* `Json.mismatch` : the error where another type is wanted;
* `Json.skip` : a value that is not wanted must still be JSON;
* `Json.toContent` : the content of a value;
* `Json.form` : JSON as a form. A record is an object, or an array of its fields in order;
* `Json.decode` : the value of a type in a text.
-/

set_option autoImplicit false

namespace ProjectPicker.Json

/-- The error where another type is wanted. What cannot be read is malformed whatever is wanted. -/
def mismatch : Json → DecodeError
  | .cut => .malformed
  | .text none => .malformed
  | .number _ d => if d.isFinite then .invalidType else .malformed
  | _ => .invalidType

def toText : Json → Except DecodeError String
  | .text (some s) => .ok s
  | j => .error j.mismatch

def toItems : Json → Except DecodeError (List Json)
  | .array items => .ok items
  | j => .error j.mismatch

def toEntries : Json → Except DecodeError (List (Json × Json))
  | .object members => .ok members
  | j => .error j.mismatch

def toFields : Json → Except DecodeError (Fields Json)
  | .object members => .ok (.named members)
  | .array items => .ok (.positional items)
  | j => .error j.mismatch

def toName : Json → Except DecodeError String
  | .text (some s) => .ok s
  | _ => .error .malformed

def toOptional : Json → Except DecodeError (Option Json)
  | .null => .ok none
  | j => .ok (some j)

mutual

/-- A value that is not wanted must still be JSON throughout. -/
def skip : Json → Except DecodeError Unit
  | .cut => .error .malformed
  | .array items => skipItems items
  | .object members => skipMembers members
  | _ => .ok ()

def skipItems : List Json → Except DecodeError Unit
  | [] => .ok ()
  | j :: rest => do
    skip j
    skipItems rest

def skipMembers : List (Json × Json) → Except DecodeError Unit
  | [] => .ok ()
  | (.text _, j) :: rest => do
    skip j
    skipMembers rest
  | _ :: _ => .error .malformed

end

/-- Nothing is attached to a word: its value is `null`. -/
def toNothing : Json → Except DecodeError Unit
  | .null => .ok ()
  | j => .error j.mismatch

/-- A word is a text, or an object whose only member has that name and the value `null`. -/
def toWord : Json → Except DecodeError (String × Except DecodeError Unit)
  | .text (some s) => .ok (s, .ok ())
  | .object ((key, value) :: rest) => do
    let s ← toText key
    return (s, do
      toNothing value
      if rest.isEmpty then .ok () else .error .malformed)
  | _ => .error .malformed

mutual

/-- The content of a value that has at most `depth` further levels. -/
def toContent (depth : Nat) : Json → Except DecodeError Content
  | .null => .ok .unit
  | .bool b => .ok (.bool b)
  | .number integral d =>
    if integral && !d.negative && d.digits < Text.countBound then .ok (.index d.digits)
    else if d.isFinite then .ok .number
    else .error .malformed
  | .text (some s) => .ok (.text s)
  | .text none => .error .malformed
  | .array items =>
    match depth with
    | 0 => .error .malformed
    | depth + 1 => do
      let items ← toContents depth items
      return .list items
  | .object members =>
    match depth with
    | 0 => .error .malformed
    | depth + 1 => do
      let entries ← toContentEntries depth members
      return .dictionary entries
  | .cut => .error .malformed

def toContents (depth : Nat) : List Json → Except DecodeError (List Content)
  | [] => .ok []
  | j :: rest => do
    let c ← toContent depth j
    let cs ← toContents depth rest
    return c :: cs

def toContentEntries (depth : Nat) :
    List (Json × Json) → Except DecodeError (List (Content × Content))
  | [] => .ok []
  | (key, value) :: rest => do
    let name ← toName key
    let c ← toContent depth value
    let cs ← toContentEntries depth rest
    return (.text name, c) :: cs

end

def form : Form Json (Except DecodeError) where
  text := toText
  items := toItems
  entries := toEntries
  fields := toFields
  fieldName := toName
  optional := toOptional
  skip := skip
  word := toWord
  tagged := toFields
  content := toContent
  maxDepth := 127

def decode {α : Type}
    (decoder : Form Json (Except DecodeError) → Json → Except DecodeError α) (text : String) :
    Except DecodeError α := do
  let d := read text
  let a ← decoder form d.value
  if d.isWhole then return a else throw .malformed

end ProjectPicker.Json
