/-!
# Places in a YAML text

* `isBreak`, `isGap`, `endsWord`, `endsLine` : the classes of characters that divide a text;
* `Cursor` : what is left of a text, with its index, line and column;
* `Cursor.left` : how many characters are left;
* `Cursor.skip`, `Cursor.skipLine`, `Cursor.readLine` : the ways forward.
-/

set_option autoImplicit false

namespace ProjectPicker.Yaml

def isBreak (c : Char) : Bool :=
  c == '\n' || c == '\r' || c == '\u0085' || c == '\u2028' || c == '\u2029'

def isGap (c : Char) : Bool := c == ' ' || c == '\t'

def endsWord : Option Char → Bool
  | none => true
  | some c => isGap c || isBreak c

def endsLine : Option Char → Bool
  | none => true
  | some c => isBreak c

def isNameChar (c : Char) : Bool := c.isAlphanum || c == '_' || c == '-'

def isAllowed (c : Char) : Bool :=
  let n := c.toNat
  n == 0x9 || n == 0xA || n == 0xD || (0x20 ≤ n && n ≤ 0x7E) || n == 0x85 ||
    (0xA0 ≤ n && n ≤ 0xD7FF) || (0xE000 ≤ n && n ≤ 0xFFFD) || 0x10000 ≤ n

/-- What is left of a text, and where that begins. -/
structure Cursor where
  rest : List Char
  /-- How many characters the whole text has. -/
  size : Nat := 0
  index : Nat := 0
  line : Nat := 0
  column : Nat := 0
  deriving Inhabited

namespace Cursor

def ofText (text : String) : Cursor := { rest := text.toList, size := text.length }

def left (c : Cursor) : Nat := c.size - c.index

/-- The character so many places on. -/
def look (c : Cursor) (n : Nat) : Option Char := c.rest[n]?

def has (c : Cursor) (n : Nat) (x : Char) : Bool := c.look n == some x

def atGap (c : Cursor) : Bool := (c.look 0).any isGap

def atBreak (c : Cursor) : Bool := (c.look 0).any isBreak

def skip (c : Cursor) : Cursor :=
  match c.rest with
  | [] => c
  | _ :: rest => { c with rest, index := c.index + 1, column := c.column + 1 }

def skipMany (c : Cursor) : Nat → Cursor
  | 0 => c
  | n + 1 => c.skip.skipMany n

def skipLine (c : Cursor) : Cursor :=
  match c.rest with
  | '\r' :: '\n' :: rest =>
    { c with rest, index := c.index + 2, line := c.line + 1, column := 0 }
  | x :: rest =>
    if isBreak x then { c with rest, index := c.index + 1, line := c.line + 1, column := 0 } else c
  | [] => c

/-- The break here as it is kept: the breaks of plain text become `\n`. -/
def breakText (c : Cursor) : List Char :=
  match c.rest with
  | x :: _ => if x == '\u2028' || x == '\u2029' then [x] else if isBreak x then ['\n'] else []
  | [] => []

def readLine (c : Cursor) : List Char × Cursor := (c.breakText, c.skipLine)

def skipWhile (p : Char → Bool) (c : Cursor) : Cursor := c.skipMany (c.rest.takeWhile p).length

def takeWhile (p : Char → Bool) (c : Cursor) : List Char := c.rest.takeWhile p

def skipComment (c : Cursor) : Cursor := if c.has 0 '#' then c.skipWhile (!isBreak ·) else c

/-- Whether this line begins with three of the character and nothing else up to the next gap. -/
def atMarker (c : Cursor) (x : Char) : Bool :=
  c.column == 0 && c.has 0 x && c.has 1 x && c.has 2 x && endsWord (c.look 3)

def atDocumentMarker (c : Cursor) : Bool := c.atMarker '-' || c.atMarker '.'

end Cursor

end ProjectPicker.Yaml
