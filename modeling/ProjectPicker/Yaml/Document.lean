import ProjectPicker.Yaml.Node.Reader

/-!
# Documents

* `Document` : a value with what its aliases stand for;
* `Document.read` : the first document of a text.

A text may hold several documents, but only one that stands by itself is whole.
-/

set_option autoImplicit false

namespace ProjectPicker.Yaml

/-- A value with what its aliases stand for. -/
structure Document where
  root : Node
  /-- The values that aliases stand for, by their numbers. -/
  targets : List (Nat × Node) := []
  /-- How many beginnings and ends of values the text has. -/
  events : Nat := 0
  /-- Whether the text holds this document and nothing else. -/
  isWhole : Bool := false

/-- The handles that need no directive. -/
def defaultHandles : List (List Char × Tag) := [(['!'], Tag.ofText "!"), (['!', '!'], Tag.core)]

/-- Reads the directives before a document. Each handle is told once, and the version is 1.1 or
1.2. -/
def readDirectives : Nat → Bool → Reading → Reading
  | 0, _, r => r.cut
  | fuel + 1, versioned, r =>
    match r.peek with
    | (some (.versionDirective major minor), r) =>
      if versioned || major != 1 || (minor != 1 && minor != 2) then r.cut
      else readDirectives fuel true r.skip
    | (some (.tagDirective handle octets), r) =>
      if (r.handles.lookup handle).isSome then r.cut
      else readDirectives fuel versioned { r.skip with handles := (handle, octets) :: r.handles }
    | (_, r) => { r with handles := r.handles ++ defaultHandles }

def endsDocument : Token → Bool
  | .versionDirective _ _ => true
  | .tagDirective _ _ => true
  | .documentStart => true
  | .documentEnd => true
  | .streamEnd => true
  | _ => false

def readMarked (fuel : Nat) (r : Reading) : Node × Reading :=
  match (readDirectives fuel false r).peek with
  | (some .documentStart, r) =>
    match r.skip.peek with
    | (none, r) => (.cut, r)
    | (some t, r) => if endsDocument t then readNothing r else readNode fuel true false r
  | (_, r) => (.cut, r.cut)

def isAtEnd : Nat → Reading → Bool
  | 0, _ => false
  | fuel + 1, r =>
    match r.peek with
    | (some .documentEnd, r) => isAtEnd fuel r.skip
    | (some .streamEnd, _) => true
    | _ => false

namespace Document

/-- The document that was read. It is whole if nothing else follows it. -/
def ofReading (fuel : Nat) (root : Node) (r : Reading) : Document where
  root := root
  targets := r.targets
  events := r.events
  isWhole := !r.isCut && isAtEnd fuel r

def read (text : String) : Document :=
  let fuel := 16 * (text.length + 4)
  if !text.toList.all isAllowed then { root := .cut }
  else
    let r : Reading := { tokens := TokenStream.ofText text }
    let r := (r.peek).2.skip
    match r.peek with
    | (none, _) => { root := .cut }
    | (some .streamEnd, _) => { root := .void, events := 1, isWhole := true }
    | (some t, r) =>
      let (root, r) :=
        if endsDocument t && t != .documentEnd then readMarked fuel r
        else readNode fuel true false { r with handles := defaultHandles }
      ofReading fuel root r

end Document

end ProjectPicker.Yaml
