import ProjectPicker.Yaml.Node
import ProjectPicker.Yaml.Token.Stream

/-!
# Reading values

* `Reading` : a token stream with the anchors met on the way;
* `readNode` : a value, its items and its entries.

What follows a token that fits nowhere is not read: the value there is `cut`, and so is the rest of
each value around it.
-/

set_option autoImplicit false

namespace ProjectPicker.Yaml

/-- A token stream with the anchors met on the way. -/
structure Reading where
  tokens : TokenStream
  /-- Whether a token fitted nowhere. -/
  isCut : Bool := false
  /-- What the handles of tags stand for. -/
  handles : List (List Char × Tag) := []
  /-- The number of the value that each anchor names now. -/
  anchors : List (List Char × Nat) := []
  /-- How many values with an anchor began. -/
  begun : Nat := 0
  /-- Which of those values each number belongs to, the latest first. -/
  owners : List (Nat × Nat) := []
  /-- The values with an anchor that are read, by the order in which they began. -/
  anchored : List (Nat × Node) := []
  events : Nat := 0

namespace Reading

def peek (r : Reading) : Option Token × Reading :=
  if r.isCut then (none, r)
  else match r.tokens.peek with
    | some (t, tokens) => (some t, { r with tokens })
    | none => (none, { r with isCut := true })

def skip (r : Reading) : Reading := { r with tokens := r.tokens.skip }

def cut (r : Reading) : Reading := { r with isCut := true }

def count (r : Reading) : Reading := { r with events := r.events + 1 }

/-- The value of an anchor begins. Its number is the number of anchors known so far. -/
def beginAnchor (name : List Char) (r : Reading) : Reading :=
  let number := r.anchors.length
  { r with
    anchors := (name, number) :: r.anchors.filter (·.1 != name)
    owners := (number, r.begun) :: r.owners
    begun := r.begun + 1 }

def beginNode (anchor : Option (List Char)) (r : Reading) : Reading :=
  match anchor with
  | some name => (r.beginAnchor name).count
  | none => r.count

def keep (anchor : Option (List Char)) (begun : Nat) (n : Node) (r : Reading) : Reading :=
  if anchor.isSome then { r with anchored := (begun, n) :: r.anchored } else r

def targets (r : Reading) : List (Nat × Node) :=
  r.owners.filterMap fun (number, begun) => (r.anchored.lookup begun).map (number, ·)

end Reading

/-! ## Properties -/

/-- What stands before a value: its anchor, and its tag as a handle and a suffix. -/
structure Properties where
  anchor : Option (List Char) := none
  tag : Option (List Char × Tag) := none

/-- Reads an anchor and a tag, in either order. -/
def readProperties (r : Reading) : Properties × Reading :=
  match r.peek with
  | (some (.anchor name), r) =>
    match r.skip.peek with
    | (some (.tag handle suffix), r) => (⟨some name, some (handle, suffix)⟩, r.skip)
    | (_, r) => (⟨some name, none⟩, r)
  | (some (.tag handle suffix), r) =>
    match r.skip.peek with
    | (some (.anchor name), r) => (⟨some name, some (handle, suffix)⟩, r.skip)
    | (_, r) => (⟨none, some (handle, suffix)⟩, r)
  | (_, r) => ({}, r)

/-- The tag that a handle and a suffix make. Without a handle the suffix is the tag; an unknown
handle makes none. -/
def resolveTag? (handles : List (List Char × Tag)) : List Char × Tag → Option Tag
  | ([], suffix) => some suffix
  | (handle, suffix) => (handles.lookup handle).map (· ++ suffix)

/-- A lone `!` says nothing about a scalar. -/
def scalarTag (tag : Option Tag) : Option Tag := if tag == some [33] then none else tag

/-! ## Values -/

def endsBlockEntry (t : Token) : Bool := t == .key || t == .value || t == .blockEnd

def endsFlowEntry (closing t : Token) : Bool := t == .value || t == .flowEntry || t == closing

def readNothing (r : Reading) : Node × Reading := (.empty, r.count)

mutual

/-- Reads a value. `block` says whether a block may begin here, and `indentless` whether the entries
of a sequence may stand at the column of the block around it. -/
def readNode : Nat → Bool → Bool → Reading → Node × Reading
  | 0, _, _, r => (.cut, r.cut)
  | fuel + 1, block, indentless, r =>
    match r.peek with
    | (none, r) => (.cut, r)
    | (some (.alias name), r) =>
      match r.anchors.lookup name with
      | some number => (.alias number, r.skip.count)
      | none => (.cut, r.cut)
    | (some _, r) =>
      let (properties, r) := readProperties r
      match properties.tag.map (resolveTag? r.handles) with
      | some none => (.cut, r.cut)
      | none => readContent fuel block indentless properties.anchor none r
      | some (some tag) => readContent fuel block indentless properties.anchor (some tag) r

def readContent : Nat → Bool → Bool → Option (List Char) → Option Tag → Reading → Node × Reading
  | 0, _, _, _, _, r => (.cut, r.cut)
  | fuel + 1, block, indentless, anchor, tag, r =>
    match r.peek with
    | (none, r) => (.cut, r)
    | (some t, r) =>
      let begun := r.begun
      let list (read : Reading → List Node × Reading) (r : Reading) : Node × Reading :=
        let (items, r) := read (r.beginNode anchor)
        (.sequence tag items, r.keep anchor begun (.sequence tag items))
      let dictionary (read : Reading → List (Node × Node) × Reading) (r : Reading) :
          Node × Reading :=
        let (entries, r) := read (r.beginNode anchor)
        (.mapping tag entries, r.keep anchor begun (.mapping tag entries))
      let scalar (n : Node) (r : Reading) : Node × Reading :=
        (n, (r.beginNode anchor).keep anchor begun n)
      match t with
      | .scalar text plain =>
        scalar (.scalar (scalarTag tag) (String.ofList text) plain) r.skip
      | .flowSequenceStart => list (readFlowItems fuel true) r.skip
      | .flowMappingStart => dictionary (readFlowEntries fuel true) r.skip
      | _ =>
        if t == .blockEntry && indentless then list (readIndentlessItems fuel) r
        else if t == .blockSequenceStart && block then list (readBlockItems fuel) r.skip
        else if t == .blockMappingStart && block then dictionary (readBlockEntries fuel) r.skip
        else if anchor.isSome || tag.isSome then scalar (.scalar tag "" true) r
        else (.cut, r.cut)

def readBlockItems : Nat → Reading → List Node × Reading
  | 0, r => ([.cut], r.cut)
  | fuel + 1, r =>
    match r.peek with
    | (some .blockEntry, r) =>
      match r.skip.peek with
      | (none, r) => ([.cut], r)
      | (some t, r) =>
        let (item, r) :=
          if t == .blockEntry || t == .blockEnd then readNothing r
          else readNode fuel true false r
        let (items, r) := readBlockItems fuel r
        (item :: items, r)
    | (some .blockEnd, r) => ([], r.skip.count)
    | (_, r) => ([.cut], r.cut)

/-- Reads the items of a sequence that stand at the column of the block around it. -/
def readIndentlessItems : Nat → Reading → List Node × Reading
  | 0, r => ([.cut], r.cut)
  | fuel + 1, r =>
    match r.peek with
    | (some .blockEntry, r) =>
      match r.skip.peek with
      | (none, r) => ([.cut], r)
      | (some t, r) =>
        let (item, r) :=
          if t == .blockEntry || endsBlockEntry t then readNothing r
          else readNode fuel true false r
        let (items, r) := readIndentlessItems fuel r
        (item :: items, r)
    | (none, r) => ([.cut], r)
    | (some _, r) => ([], r.count)

def readBlockEntries : Nat → Reading → List (Node × Node) × Reading
  | 0, r => ([(.cut, .cut)], r.cut)
  | fuel + 1, r =>
    match r.peek with
    | (some .key, r) =>
      match r.skip.peek with
      | (none, r) => ([(.cut, .cut)], r)
      | (some t, r) =>
        let (key, r) := if endsBlockEntry t then readNothing r else readNode fuel true true r
        readBlockValue fuel key r
    | (some .blockEnd, r) => ([], r.skip.count)
    | (_, r) => ([(.cut, .cut)], r.cut)

def readBlockValue : Nat → Node → Reading → List (Node × Node) × Reading
  | 0, key, r => ([(key, .cut)], r.cut)
  | fuel + 1, key, r =>
    match r.peek with
    | (none, r) => ([(key, .cut)], r)
    | (some .value, r) =>
      match r.skip.peek with
      | (none, r) => ([(key, .cut)], r)
      | (some t, r) =>
        let (value, r) := if endsBlockEntry t then readNothing r else readNode fuel true true r
        let (entries, r) := readBlockEntries fuel r
        ((key, value) :: entries, r)
    | (some _, r) =>
      let (value, r) := readNothing r
      let (entries, r) := readBlockEntries fuel r
      ((key, value) :: entries, r)

def readFlowItems : Nat → Bool → Reading → List Node × Reading
  | 0, _, r => ([.cut], r.cut)
  | fuel + 1, first, r =>
    match r.peek with
    | (some .flowSequenceEnd, r) => ([], r.skip.count)
    | (some .flowEntry, r) => if first then readFlowItem fuel r else readFlowItem fuel r.skip
    | (_, r) => if first then readFlowItem fuel r else ([.cut], r.cut)

def readFlowItem : Nat → Reading → List Node × Reading
  | 0, r => ([.cut], r.cut)
  | fuel + 1, r =>
    match r.peek with
    | (none, r) => ([.cut], r)
    | (some .flowSequenceEnd, r) => ([], r.skip.count)
    | (some .key, r) =>
      let (entry, r) := readPair fuel r.skip.count
      let (items, r) := readFlowItems fuel false r
      (.mapping none [entry] :: items, r)
    | (some _, r) =>
      let (item, r) := readNode fuel false false r
      let (items, r) := readFlowItems fuel false r
      (item :: items, r)

/-- Reads a single entry among the items between brackets. After a key that is not written, the
token there is passed over. -/
def readPair : Nat → Reading → (Node × Node) × Reading
  | 0, r => ((.cut, .cut), r.cut)
  | fuel + 1, r =>
    match r.peek with
    | (none, r) => ((.cut, .cut), r)
    | (some t, r) =>
      let (key, r) :=
        if endsFlowEntry .flowSequenceEnd t then readNothing r.skip
        else readNode fuel false false r
      match r.peek with
      | (none, r) => ((key, .cut), r)
      | (some .value, r) =>
        match r.skip.peek with
        | (none, r) => ((key, .cut), r)
        | (some t, r) =>
          let (value, r) :=
            if t == .flowEntry || t == .flowSequenceEnd then readNothing r
            else readNode fuel false false r
          ((key, value), r.count)
      | (some _, r) =>
        let (value, r) := readNothing r
        ((key, value), r.count)

def readFlowEntries : Nat → Bool → Reading → List (Node × Node) × Reading
  | 0, _, r => ([(.cut, .cut)], r.cut)
  | fuel + 1, first, r =>
    match r.peek with
    | (some .flowMappingEnd, r) => ([], r.skip.count)
    | (some .flowEntry, r) => if first then readFlowKey fuel r else readFlowKey fuel r.skip
    | (_, r) => if first then readFlowKey fuel r else ([(.cut, .cut)], r.cut)

/-- Reads an entry between braces, and those after it. A key without a mark has no value. -/
def readFlowKey : Nat → Reading → List (Node × Node) × Reading
  | 0, r => ([(.cut, .cut)], r.cut)
  | fuel + 1, r =>
    match r.peek with
    | (none, r) => ([(.cut, .cut)], r)
    | (some .flowMappingEnd, r) => ([], r.skip.count)
    | (some .key, r) =>
      match r.skip.peek with
      | (none, r) => ([(.cut, .cut)], r)
      | (some t, r) =>
        let (key, r) :=
          if endsFlowEntry .flowMappingEnd t then readNothing r else readNode fuel false false r
        readFlowValue fuel key r
    | (some _, r) =>
      let (key, r) := readNode fuel false false r
      match r.peek with
      | (none, r) => ([(key, .cut)], r)
      | (some _, r) =>
        let (value, r) := readNothing r
        let (entries, r) := readFlowEntries fuel false r
        ((key, value) :: entries, r)

def readFlowValue : Nat → Node → Reading → List (Node × Node) × Reading
  | 0, key, r => ([(key, .cut)], r.cut)
  | fuel + 1, key, r =>
    match r.peek with
    | (none, r) => ([(key, .cut)], r)
    | (some .value, r) =>
      match r.skip.peek with
      | (none, r) => ([(key, .cut)], r)
      | (some t, r) =>
        let (value, r) :=
          if t == .flowEntry || t == .flowMappingEnd then readNothing r
          else readNode fuel false false r
        let (entries, r) := readFlowEntries fuel false r
        ((key, value) :: entries, r)
    | (some _, r) =>
      let (value, r) := readNothing r
      let (entries, r) := readFlowEntries fuel false r
      ((key, value) :: entries, r)

end

end ProjectPicker.Yaml
