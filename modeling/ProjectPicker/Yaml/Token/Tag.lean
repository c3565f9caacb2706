import ProjectPicker.Yaml.Cursor
import ProjectPicker.Yaml.Token
import ProjectPicker.Yaml.Token.Scalar

/-!
# Reading names, tags and directives

* `readName` : the name of an anchor or an alias;
* `readUri` : the octets of a tag, where `%` stands before an octet in hexadecimal;
* `readTag` : a tag as its handle and suffix;
* `readDirective` : a line that begins with `%`.

`none` means that the text is not of that kind.
-/

set_option autoImplicit false

namespace ProjectPicker.Yaml

/-! ## Names -/

def endsName (c : Char) : Bool :=
  c == '?' || c == ':' || c == ',' || c == ']' || c == '\x7d' || c == '%' || c == '@' || c == '\x60'

def readName (c : Cursor) : Option (List Char × Cursor) :=
  let name := c.takeWhile isNameChar
  let after := c.skipMany name.length
  if name.isEmpty || !(endsWord (after.look 0) || (after.look 0).any endsName) then none
  else some (name, after)

/-! ## Octets of tags -/

def isUriMark (c : Char) : Bool :=
  c == ';' || c == '/' || c == '?' || c == ':' || c == '@' || c == '&' || c == '=' || c == '+' ||
    c == '$' || c == '.' || c == '!' || c == '~' || c == '*' || c == '\x27' || c == '(' || c == ')'

def isBracketMark (c : Char) : Bool := c == ',' || c == '[' || c == ']'

def readOctet (c : Cursor) : Option (Nat × Cursor) :=
  if c.has 0 '%' then readHex 2 0 c.skip else none

def readContinuing : Nat → Cursor → Option (List UInt8 × Cursor)
  | 0, c => some ([], c)
  | n + 1, c => do
    let (octet, c) ← readOctet c
    if octet / 64 != 2 then none
    let (octets, c) ← readContinuing n c
    return (UInt8.ofNat octet :: octets, c)

/-- How many octets continue a character that begins with this one. -/
def continuing? (octet : Nat) : Option Nat :=
  if octet / 128 == 0 then some 0
  else if octet / 32 == 6 then some 1
  else if octet / 16 == 14 then some 2
  else if octet / 8 == 30 then some 3
  else none

def readEscaped (c : Cursor) : Option (List UInt8 × Cursor) := do
  let (first, c) ← readOctet c
  let more ← continuing? first
  let (octets, c) ← readContinuing more c
  return (UInt8.ofNat first :: octets, c)

/-- Reads the octets of a tag; `brackets` says whether they may hold bracket marks. -/
def readOctets (brackets : Bool) : Nat → Cursor → Option (List UInt8 × Cursor)
  | 0, c => some ([], c)
  | fuel + 1, c =>
    match c.look 0 with
    | none => some ([], c)
    | some x =>
      if x == '%' then do
        let (octets, c) ← readEscaped c
        let (more, c) ← readOctets brackets fuel c
        return (octets ++ more, c)
      else if isNameChar x || isUriMark x || (brackets && isBracketMark x) then do
        let (more, c) ← readOctets brackets fuel c.skip
        return (UInt8.ofNat x.toNat :: more, c)
      else some ([], c)

def readUri (brackets : Bool) (c : Cursor) : Option (List UInt8 × Cursor) := do
  let (octets, c) ← readOctets brackets (c.left + 1) c
  if octets.isEmpty then none else return (octets, c)

/-! ## Tags -/

/-- Reads a handle: `!`, perhaps a name, and perhaps another `!`. -/
def readHandle (c : Cursor) : Option (List Char × Cursor) :=
  if c.has 0 '!' then
    let name := c.skip.takeWhile isNameChar
    let after := c.skip.skipMany name.length
    if after.has 0 '!' then some ('!' :: name ++ ['!'], after.skip)
    else some ('!' :: name, after)
  else none

def isClosedHandle (handle : List Char) : Bool :=
  1 < handle.length && handle.getLast? == some '!'

def readVerbatimTag (c : Cursor) : Option (Token × Cursor) := do
  let (suffix, c) ← readUri true (c.skipMany 2)
  if c.has 0 '>' then return (.tag [] suffix, c.skip) else none

/-- Reads a tag that begins with a handle. A lone `!` is a tag of its own. -/
def readShortTag (c : Cursor) : Option (Token × Cursor) := do
  let (handle, c) ← readHandle c
  if isClosedHandle handle then
    let (suffix, c) ← readUri false c
    return (.tag handle suffix, c)
  else
    let (octets, c) ← readOctets false (c.left + 1) c
    let suffix := handle.tail.map (fun x => UInt8.ofNat x.toNat) ++ octets
    if suffix.isEmpty then return (.tag [] [33], c) else return (.tag ['!'] suffix, c)

/-- Reads a tag. It ends with a word, or inside brackets before a comma. -/
def readTag (flow : Bool) (c : Cursor) : Option (Token × Cursor) := do
  let (token, c) ← if c.has 1 '<' then readVerbatimTag c else readShortTag c
  if endsWord (c.look 0) || (flow && c.has 0 ',') then return (token, c) else none

/-! ## Directives -/

/-- Reads a number of at most nine digits. -/
def readVersionNumber (c : Cursor) : Option (Nat × Cursor) :=
  let digits := c.takeWhile Char.isDigit
  if digits.isEmpty || 9 < digits.length then none
  else some (digits.foldl (fun n x => n * 10 + (x.toNat - '0'.toNat)) 0, c.skipMany digits.length)

def readVersion (c : Cursor) : Option (Token × Cursor) := do
  let (major, c) ← readVersionNumber (c.skipWhile isGap)
  if !c.has 0 '.' then none
  let (minor, c) ← readVersionNumber c.skip
  return (.versionDirective major minor, c)

def readTagDirective (c : Cursor) : Option (Token × Cursor) := do
  let (handle, c) ← readHandle (c.skipWhile isGap)
  if handle != ['!'] && !isClosedHandle handle then none
  if !c.atGap then none
  let (octets, c) ← readUri true (c.skipWhile isGap)
  if endsWord (c.look 0) then return (.tagDirective handle octets, c) else none

def readDirective (c : Cursor) : Option (Token × Cursor) := do
  let name := c.skip.takeWhile isNameChar
  let after := c.skip.skipMany name.length
  if name.isEmpty || !endsWord (after.look 0) then none
  let (token, c) ←
    if name == "YAML".toList then readVersion after
    else if name == "TAG".toList then readTagDirective after
    else none
  let c := (c.skipWhile isGap).skipComment
  if endsLine (c.look 0) then return (token, c.skipLine) else none

end ProjectPicker.Yaml
