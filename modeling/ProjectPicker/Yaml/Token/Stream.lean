import ProjectPicker.Yaml.Token.Tag

/-!
# Token streams

* `KeyPlace` : a place where a key may have begun, which only a later `:` can tell;
* `TokenStream` : a text on its way to tokens;
* `TokenStream.peek`, `TokenStream.skip` : the next token, and the stream after it.

The indentation of a block stands for brackets: a token opens a block where a line is indented
further, and another closes it where a line is indented less. A token is handed out once no key can
be found to have begun before it. `none` means that the text goes on with no token.
-/

set_option autoImplicit false

namespace ProjectPicker.Yaml

/-- A place where a key may have begun. Inside each pair of brackets there is one such place. -/
structure KeyPlace where
  isPossible : Bool := false
  /-- A key has to begin here, because the line is indented as the keys of its block are. -/
  isRequired : Bool := false
  /-- The number of the token that the key begins with. -/
  number : Nat := 0
  index : Nat := 0
  line : Nat := 0
  column : Nat := 0
  deriving Inhabited

/-- A text on its way to tokens. -/
structure TokenStream where
  cursor : Cursor
  isStarted : Bool := false
  /-- The tokens found and not taken yet. -/
  queue : List Token := []
  /-- How many tokens were taken. -/
  taken : Nat := 0
  /-- The column of the block here, and of those around it; `-1` outside of all blocks. -/
  indent : Int := -1
  outerIndents : List Int := []
  /-- Whether a key may begin here. -/
  keyAllowed : Bool := true
  /-- Where a key may have begun outside and inside of each bracket, the innermost first. -/
  places : List KeyPlace := [{}]
  deriving Inhabited

namespace TokenStream

def ofText (text : String) : TokenStream := { cursor := Cursor.ofText text }

def inFlow (s : TokenStream) : Bool := 1 < s.places.length

def column (s : TokenStream) : Int := s.cursor.column

def push (t : Token) (s : TokenStream) : TokenStream := { s with queue := s.queue ++ [t] }

def insertAt (number : Nat) (t : Token) (s : TokenStream) : TokenStream :=
  let (before, after) := s.queue.splitAt (number - s.taken)
  { s with queue := before ++ t :: after }

def nextNumber (s : TokenStream) : Nat := s.taken + s.queue.length

/-! ## Blocks -/

/-- Opens a block at a column, if it is further in than the block here. The token goes before the
one of this number. -/
def openBlock (column : Int) (number : Nat) (t : Token) (s : TokenStream) : TokenStream :=
  if !s.inFlow && s.indent < column then
    ({ s with indent := column, outerIndents := s.indent :: s.outerIndents } : TokenStream).insertAt
      number t
  else s

def closeBlocksFrom (column indent : Int) : List Int → TokenStream → TokenStream
  | [], s => { s with indent, outerIndents := [] }
  | outer :: rest, s =>
    if column < indent then closeBlocksFrom column outer rest (s.push .blockEnd)
    else { s with indent, outerIndents := outer :: rest }

/-- Closes the blocks further in than a column. Inside brackets indentation does not count. -/
def closeBlocks (column : Int) (s : TokenStream) : TokenStream :=
  if s.inFlow then s else closeBlocksFrom column s.indent s.outerIndents s

/-! ## Keys -/

def maxKeyLength : Nat := 1024

/-- Whether it is too late for a `:` to tell that a key began at a place. -/
def isStale (c : Cursor) (k : KeyPlace) : Bool :=
  k.isPossible && (k.line < c.line || k.index + maxKeyLength < c.index)

/-- Gives up the places for which it is too late; a required one is an error. -/
def dropStale (s : TokenStream) : Option TokenStream :=
  if s.places.any fun k => isStale s.cursor k && k.isRequired then none
  else some { s with
    places := s.places.map fun k =>
      if isStale s.cursor k then { k with isPossible := false } else k }

def dropKey (s : TokenStream) : Option TokenStream :=
  match s.places with
  | [] => some s
  | k :: rest =>
    if k.isPossible && k.isRequired then none
    else some { s with places := { k with isPossible := false } :: rest }

def noteKey (s : TokenStream) : Option TokenStream := do
  if !s.keyAllowed then return s
  let s ← s.dropKey
  let place : KeyPlace := {
    isPossible := true
    isRequired := !s.inFlow && s.indent == s.column
    number := s.nextNumber
    index := s.cursor.index
    line := s.cursor.line
    column := s.cursor.column }
  return { s with places := place :: s.places.tail }

/-! ## Tokens of one character or three -/

def mark (t : Token) (length : Nat) (s : TokenStream) : TokenStream :=
  { s with cursor := s.cursor.skipMany length, queue := s.queue ++ [t] }

def fetchEnd (s : TokenStream) : Option TokenStream := do
  let c := s.cursor
  let c := if c.column == 0 then c else { c with column := 0, line := c.line + 1 }
  let s ← (({ s with cursor := c } : TokenStream).closeBlocks (-1)).dropKey
  return ({ s with keyAllowed := false } : TokenStream).push .streamEnd

def fetchDirective (s : TokenStream) : Option TokenStream := do
  let s ← (s.closeBlocks (-1)).dropKey
  let (t, cursor) ← readDirective s.cursor
  return ({ s with cursor, keyAllowed := false } : TokenStream).push t

def fetchMarker (t : Token) (s : TokenStream) : Option TokenStream := do
  let s ← (s.closeBlocks (-1)).dropKey
  return ({ s with keyAllowed := false } : TokenStream).mark t 3

def fetchOpening (t : Token) (s : TokenStream) : Option TokenStream := do
  let s ← s.noteKey
  return ({ s with keyAllowed := true, places := {} :: s.places } : TokenStream).mark t 1

def fetchClosing (t : Token) (s : TokenStream) : Option TokenStream := do
  let s ← s.dropKey
  let places := if s.inFlow then s.places.tail else s.places
  return ({ s with keyAllowed := false, places } : TokenStream).mark t 1

def fetchComma (s : TokenStream) : Option TokenStream := do
  let s ← s.dropKey
  return ({ s with keyAllowed := true } : TokenStream).mark .flowEntry 1

/-- Opens a block here for an entry or a key, which may only come where a key is allowed. -/
def openBlockHere (t : Token) (s : TokenStream) : Option TokenStream :=
  if s.inFlow then some s
  else if s.keyAllowed then some (s.openBlock s.column s.nextNumber t)
  else none

def fetchEntry (s : TokenStream) : Option TokenStream := do
  let s ← s.openBlockHere .blockSequenceStart
  let s ← s.dropKey
  return ({ s with keyAllowed := true } : TokenStream).mark .blockEntry 1

def fetchKey (s : TokenStream) : Option TokenStream := do
  let s ← s.openBlockHere .blockMappingStart
  let s ← s.dropKey
  return ({ s with keyAllowed := !s.inFlow } : TokenStream).mark .key 1

/-- A `:` after a place where a key may have begun tells that it did. -/
def fetchValue (s : TokenStream) : Option TokenStream :=
  match s.places with
  | k :: rest =>
    if k.isPossible then
      let s := (s.insertAt k.number .key).openBlock k.column k.number .blockMappingStart
      some (({ s with
        keyAllowed := false
        places := { k with isPossible := false } :: rest } : TokenStream).mark .value 1)
    else do
      let s ← s.openBlockHere .blockMappingStart
      return ({ s with keyAllowed := !s.inFlow } : TokenStream).mark .value 1
  | [] => none

/-! ## Longer tokens -/

def fetchKeyed (read : Cursor → Option (Token × Cursor)) (s : TokenStream) :
    Option TokenStream := do
  let s ← s.noteKey
  let (t, cursor) ← read s.cursor
  return ({ s with cursor, keyAllowed := false } : TokenStream).push t

def fetchName (token : List Char → Token) (s : TokenStream) : Option TokenStream :=
  s.fetchKeyed fun c => (readName c.skip).map fun r => (token r.1, r.2)

def fetchTag (s : TokenStream) : Option TokenStream := s.fetchKeyed (readTag s.inFlow)

def fetchQuoted (single : Bool) (s : TokenStream) : Option TokenStream :=
  s.fetchKeyed fun c => (readQuoted single c).map fun r => (.scalar r.1 false, r.2)

def fetchBlock (literal : Bool) (s : TokenStream) : Option TokenStream := do
  let s ← s.dropKey
  let (text, cursor) ← readBlock literal s.indent s.cursor
  return ({ s with cursor, keyAllowed := true } : TokenStream).push (.scalar text false)

/-- After a plain scalar a key may begin if a line ended. -/
def fetchPlain (s : TokenStream) : Option TokenStream := do
  let s ← s.noteKey
  let (text, broken, cursor) ← readPlain s.inFlow (s.indent + 1) s.cursor
  return ({ s with cursor, keyAllowed := broken } : TokenStream).push (.scalar text true)

/-! ## Finding tokens -/

/-- Past gaps, comments and breaks. A tab is a gap only where no key may begin. -/
def skipBlanks : Nat → TokenStream → TokenStream
  | 0, s => s
  | fuel + 1, s =>
    let tabs := s.inFlow || !s.keyAllowed
    let c := (s.cursor.skipWhile fun x => x == ' ' || (tabs && x == '\t')).skipComment
    if c.atBreak then
      skipBlanks fuel { s with cursor := c.skipLine, keyAllowed := s.keyAllowed || !s.inFlow }
    else { s with cursor := c }

def skipByteOrderMark (s : TokenStream) : TokenStream :=
  if s.cursor.index == 0 && s.cursor.has 0 '\uFEFF' then { s with cursor := s.cursor.skip } else s

def isIndicator (x : Char) : Bool :=
  isFlowIndicator x || x == '-' || x == '?' || x == ':' || x == '#' || x == '&' || x == '*' ||
    x == '!' || x == '|' || x == '>' || x == '\x27' || x == '\x22' || x == '%' || x == '@' ||
    x == '\x60'

def beginsPlain (flow : Bool) (x : Char) (next : Option Char) : Bool :=
  !(isGap x || isBreak x || isIndicator x) || (x == '-' && !next.any isGap) ||
    (!flow && (x == '?' || x == ':') && !endsWord next)

def fetchToken (s : TokenStream) : Option TokenStream :=
  let c := s.cursor
  let wordAfter := s.inFlow || endsWord (c.look 1)
  match c.look 0 with
  | none => s.fetchEnd
  | some x =>
    if c.column == 0 && x == '%' then s.fetchDirective
    else if c.atMarker '-' then s.fetchMarker .documentStart
    else if c.atMarker '.' then s.fetchMarker .documentEnd
    else if x == '[' then s.fetchOpening .flowSequenceStart
    else if x == '\x7b' then s.fetchOpening .flowMappingStart
    else if x == ']' then s.fetchClosing .flowSequenceEnd
    else if x == '\x7d' then s.fetchClosing .flowMappingEnd
    else if x == ',' then s.fetchComma
    else if x == '-' && endsWord (c.look 1) then s.fetchEntry
    else if x == '?' && wordAfter then s.fetchKey
    else if x == ':' && wordAfter then s.fetchValue
    else if x == '*' then s.fetchName .alias
    else if x == '&' then s.fetchName .anchor
    else if x == '!' then s.fetchTag
    else if x == '|' && !s.inFlow then s.fetchBlock true
    else if x == '>' && !s.inFlow then s.fetchBlock false
    else if x == '\x27' then s.fetchQuoted true
    else if x == '\x22' then s.fetchQuoted false
    else if beginsPlain s.inFlow x (c.look 1) then s.fetchPlain
    else none

def fetch (s : TokenStream) : Option TokenStream := do
  if !s.isStarted then return ({ s with isStarted := true } : TokenStream).push .streamStart
  let s := s.skipByteOrderMark.skipBlanks (s.cursor.left + 1)
  let s ← s.dropStale
  (s.closeBlocks s.column).fetchToken

/-- Whether a key may have begun before the next token. -/
def isUndecided (s : TokenStream) : Bool :=
  s.places.any fun k => k.isPossible && k.number == s.taken

/-- Finds tokens until the next one is settled. -/
def settle : Nat → TokenStream → Option (Token × TokenStream)
  | 0, _ => none
  | fuel + 1, s =>
    match s.queue with
    | [] => s.fetch >>= settle fuel
    | t :: _ => do
      let s ← s.dropStale
      if s.isUndecided then s.fetch >>= settle fuel else return (t, s)

/-- The next token, and the stream that still has it before it. Each search for a token gets past a
character or finds the end, and at the end no key is left possible for long. -/
def peek (s : TokenStream) : Option (Token × TokenStream) := settle (s.cursor.left + 8) s

def skip (s : TokenStream) : TokenStream :=
  { s with queue := s.queue.tail, taken := s.taken + 1 }

end TokenStream

end ProjectPicker.Yaml
