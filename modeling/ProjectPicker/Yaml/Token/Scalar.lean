import ProjectPicker.Text.Digit
import ProjectPicker.Yaml.Cursor

/-!
# Reading scalars

* `Fold` : the gaps and breaks between two words of a scalar, and what they become;
* `readPlain`, `readQuoted`, `readBlock` : the three kinds of scalars, from their first character.

Texts are gathered backwards. `none` means that the text is no scalar of its kind.
-/

set_option autoImplicit false

namespace ProjectPicker.Yaml

/-! ## Folding -/

/-- The gaps and breaks between two words of a scalar. -/
structure Fold where
  /-- The gaps before the first break. -/
  gaps : List Char := []
  /-- The first break. -/
  first : List Char := []
  /-- The further breaks. -/
  more : List Char := []
  /-- Whether there was a break. -/
  broken : Bool := false

namespace Fold

def isEmpty (f : Fold) : Bool := !f.broken && f.gaps.isEmpty

/-- What the gaps and breaks become: gaps stay, one break becomes a space, and of several the first
is dropped. Breaks that are not plain ones stay. -/
def joined (f : Fold) : List Char :=
  if f.broken then
    if f.first.head? == some '\n' then (if f.more.isEmpty then [' '] else f.more)
    else f.first ++ f.more
  else f.gaps

/-- A gap; after a break it is indentation. -/
def gap (f : Fold) (x : Char) : Fold := if f.broken then f else { f with gaps := f.gaps ++ [x] }

def newline (f : Fold) (text : List Char) : Fold :=
  if f.broken then { f with more := f.more ++ text }
  else { f with gaps := [], first := text, broken := true }

end Fold

/-- Reads gaps and breaks. A tab that indents by less than `indent` is refused. -/
def readFold (indent : Int) : Nat → Fold → Cursor → Option (Fold × Cursor)
  | 0, f, c => some (f, c)
  | fuel + 1, f, c =>
    match c.look 0 with
    | none => some (f, c)
    | some x =>
      if isGap x then
        if f.broken && x == '\t' && (c.column : Int) < indent then none
        else readFold indent fuel (f.gap x) c.skip
      else if isBreak x then readFold indent fuel (f.newline c.breakText) c.skipLine
      else some (f, c)

/-! ## Plain scalars -/

def isFlowIndicator (x : Char) : Bool :=
  x == ',' || x == '[' || x == ']' || x == '\x7b' || x == '\x7d'

def endsPlain (flow : Bool) (x : Char) (next : Option Char) : Bool :=
  (x == ':' && endsWord next) || (flow && isFlowIndicator x)

/-- A colon directly before an indicator is refused inside brackets. -/
def isStrayColon (flow : Bool) (x : Char) (next : Option Char) : Bool :=
  flow && x == ':' && next.any fun y => y == '?' || isFlowIndicator y

/-- Reads a word of a plain scalar. `f` is what stands before it; it is kept when there is no
word. -/
def readPlainWord (flow : Bool) : Nat → List Char → Fold → Cursor →
    Option (List Char × Fold × Cursor)
  | 0, out, f, c => some (out, f, c)
  | fuel + 1, out, f, c =>
    match c.look 0 with
    | none => some (out, f, c)
    | some x =>
      if isGap x || isBreak x then some (out, f, c)
      else if isStrayColon flow x (c.look 1) then none
      else if endsPlain flow x (c.look 1) then some (out, f, c)
      else readPlainWord flow fuel (x :: f.joined.reverse ++ out) {} c.skip

def readPlainWords (flow : Bool) (indent : Int) : Nat → List Char → Fold → Cursor →
    Option (List Char × Fold × Cursor)
  | 0, out, f, c => some (out, f, c)
  | fuel + 1, out, f, c =>
    if c.atDocumentMarker || c.has 0 '#' then some (out, f, c)
    else do
      let (out, f, c) ← readPlainWord flow (c.left + 1) out f c
      if !c.atGap && !c.atBreak then return (out, f, c)
      let (f, c) ← readFold indent (c.left + 1) f c
      if !flow && (c.column : Int) < indent then return (out, f, c)
      readPlainWords flow indent fuel out f c

/-- Reads a plain scalar: its text, whether a line ended after it, and the place after it. -/
def readPlain (flow : Bool) (indent : Int) (c : Cursor) : Option (List Char × Bool × Cursor) := do
  let (out, f, c) ← readPlainWords flow indent (c.left + 1) [] {} c
  return (out.reverse, f.broken, c)

/-! ## Quoted scalars -/

def readHex : Nat → Nat → Cursor → Option (Nat × Cursor)
  | 0, n, c => some (n, c)
  | digits + 1, n, c => do
    let x ← c.look 0
    let d ← Text.hexValue? x
    readHex digits (n * 16 + d) c.skip

def shortEscape? : Char → Option Char
  | '0' => some '\x00'
  | 'a' => some '\x07'
  | 'b' => some '\x08'
  | 't' => some '\t'
  | '\t' => some '\t'
  | 'n' => some '\n'
  | 'v' => some '\x0b'
  | 'f' => some '\x0c'
  | 'r' => some '\r'
  | 'e' => some '\x1b'
  | ' ' => some ' '
  | '\x22' => some '\x22'
  | '/' => some '/'
  | '\\' => some '\\'
  | 'N' => some '\u0085'
  | '_' => some '\u00a0'
  | 'L' => some '\u2028'
  | 'P' => some '\u2029'
  | _ => none

/-- How many digits an escape has that gives a code point. -/
def escapeDigits? : Char → Option Nat
  | 'x' => some 2
  | 'u' => some 4
  | 'U' => some 8
  | _ => none

def readEscape (c : Cursor) : Option (Char × Cursor) := do
  let x ← c.look 0
  match shortEscape? x with
  | some y => return (y, c.skip)
  | none =>
    let digits ← escapeDigits? x
    let (n, c) ← readHex digits 0 c.skip
    if n.isValidChar then return (Char.ofNat n, c) else none

/-- Reads a word of a quoted scalar, and whether a break was escaped after it. -/
def readQuotedWord (single : Bool) : Nat → List Char → Cursor →
    Option (List Char × Bool × Cursor)
  | 0, out, c => some (out, false, c)
  | fuel + 1, out, c =>
    match c.look 0 with
    | none => some (out, false, c)
    | some x =>
      if isGap x || isBreak x then some (out, false, c)
      else if single then
        if x == '\x27' then
          if c.has 1 '\x27' then readQuotedWord single fuel ('\x27' :: out) (c.skipMany 2)
          else some (out, false, c)
        else readQuotedWord single fuel (x :: out) c.skip
      else if x == '\x22' then some (out, false, c)
      else if x == '\\' then
        if (c.look 1).any isBreak then some (out, true, c.skip.skipLine)
        else do
          let (y, c) ← readEscape c.skip
          readQuotedWord single fuel (y :: out) c
      else readQuotedWord single fuel (x :: out) c.skip

def closingQuote (single : Bool) : Char := if single then '\x27' else '\x22'

def readQuotedWords (single : Bool) : Nat → List Char → Cursor → Option (List Char × Cursor)
  | 0, _, _ => none
  | fuel + 1, out, c =>
    if c.atDocumentMarker || c.rest.isEmpty then none
    else do
      let (out, escaped, c) ← readQuotedWord single (c.left + 1) out c
      if c.has 0 (closingQuote single) then return (out, c.skip)
      let (f, c) ← readFold 0 (c.left + 1) { broken := escaped } c
      readQuotedWords single fuel (f.joined.reverse ++ out) c

def readQuoted (single : Bool) (c : Cursor) : Option (List Char × Cursor) := do
  let (out, c) ← readQuotedWords single (2 * c.left + 2) [] c.skip
  return (out.reverse, c)

/-! ## Block scalars -/

/-- What becomes of the breaks at the end of a block scalar. -/
inductive Chomping where
  | strip
  | clip
  | keep
  deriving DecidableEq

def readChomping (c : Cursor) : Chomping × Cursor :=
  if c.has 0 '+' then (.keep, c.skip) else if c.has 0 '-' then (.strip, c.skip) else (.clip, c)

/-- Reads by how much the text is indented; `0` when that is not said. -/
def readIncrement (c : Cursor) : Option (Nat × Cursor) :=
  match c.look 0 with
  | some x =>
    if x == '0' then none
    else if x.isDigit then some (x.toNat - '0'.toNat, c.skip)
    else some (0, c)
  | none => some (0, c)

/-- Reads the two indicators, which may come in either order. -/
def readIndicators (c : Cursor) : Option (Chomping × Nat × Cursor) := do
  if c.has 0 '+' || c.has 0 '-' then
    let (chomping, c) := readChomping c
    let (increment, c) ← readIncrement c
    return (chomping, increment, c)
  else
    let (increment, c) ← readIncrement c
    if increment == 0 then return (.clip, 0, c)
    let (chomping, c) := readChomping c
    return (chomping, increment, c)

/-- Past the indentation: spaces up to the column `indent`, or all when that is not known yet. -/
def skipIndent (indent : Nat) : Nat → Cursor → Cursor
  | 0, c => c
  | fuel + 1, c =>
    if (indent == 0 || c.column < indent) && c.has 0 ' ' then skipIndent indent fuel c.skip else c

/-- Reads empty lines and the indentation after them: the breaks, and the widest indentation met. -/
def readEmptyLines (indent : Nat) : Nat → Nat → List Char → Cursor →
    Option (Nat × List Char × Cursor)
  | 0, widest, breaks, c => some (widest, breaks, c)
  | fuel + 1, widest, breaks, c =>
    let c := skipIndent indent (c.left + 1) c
    let widest := max widest c.column
    if (indent == 0 || c.column < indent) && c.has 0 '\t' then none
    else if c.atBreak then readEmptyLines indent fuel widest (breaks ++ c.breakText) c.skipLine
    else some (widest, breaks, c)

/-- Reads the lines of a block scalar at the column `indent`. `first` and `more` are the breaks
before the next line, and `blank` says whether the line before began with a gap. -/
def readBlockLines (literal : Bool) (indent : Nat) : Nat → List Char → List Char → List Char →
    Bool → Cursor → Option (List Char × List Char × List Char × Cursor)
  | 0, out, first, more, _, c => some (out, first, more, c)
  | fuel + 1, out, first, more, blank, c =>
    if c.column == indent && !c.rest.isEmpty then do
      let blankNow := c.atGap
      let between :=
        if !literal && first.head? == some '\n' && !blank && !blankNow then
          (if more.isEmpty then [' '] else []) ++ more
        else first ++ more
      let line := c.takeWhile (!isBreak ·)
      let c := c.skipMany line.length
      let (first, c) := c.readLine
      let (_, more, c) ← readEmptyLines indent (c.left + 1) 0 [] c
      readBlockLines literal indent fuel (line.reverse ++ between.reverse ++ out) first more
        blankNow c
    else some (out, first, more, c)

/-- Reads a block scalar from its indicator. `parent` is the indentation around it, `-1` at the
outermost level. -/
def readBlock (literal : Bool) (parent : Int) (c : Cursor) : Option (List Char × Cursor) := do
  let (chomping, increment, c) ← readIndicators c.skip
  let c := (c.skipWhile isGap).skipComment
  if !endsLine (c.look 0) then none
  let c := c.skipLine
  let given := if increment == 0 then 0 else parent.toNat + increment
  let (widest, more, c) ← readEmptyLines given (c.left + 1) 0 [] c
  let indent := if given == 0 then max (max widest (parent + 1).toNat) 1 else given
  let (out, first, more, c) ← readBlockLines literal indent (c.left + 1) [] [] more false c
  let tail := match chomping with
    | .strip => []
    | .clip => first
    | .keep => first ++ more
  return (out.reverse ++ tail, c)

end ProjectPicker.Yaml
