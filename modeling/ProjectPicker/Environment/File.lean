import ProjectPicker.Environment
import ProjectPicker.Text.Alphanumeric
import ProjectPicker.Text.Blank
import ProjectPicker.Text.Utf8

/-!
# Files of variables

* `QuoteState`, `QuoteState.scan` : whether a line goes on behind its break;
* `joinLines` : the lines of a file, where quoted breaks do not end one;
* `Expansion`, `Expansion.expand` : the value of a variable as it is written;
* `Line.parse` : a line that sets a variable;
* `Environment.load` : the environment with the variables of a file.

A variable that the environment has already keeps its value, and the first line that cannot be read
ends the file.
-/

set_option autoImplicit false

namespace ProjectPicker

namespace EnvironmentFile

/-! ## Lines -/

/-- Where a line stands. -/
inductive QuoteState where
  | plain
  | escaped
  | strong
  | strongEscaped
  | weak
  | weakEscaped
  | blank
  deriving DecidableEq

/-- What a quote or a backslash does outside of quotes. -/
def QuoteState.enter : Char → QuoteState
  | '\\' => .escaped
  | '\x22' => .weak
  | '\x27' => .strong
  | _ => .plain

def QuoteState.next : QuoteState → Char → QuoteState
  | .blank, c => .enter c
  | .escaped, _ => .plain
  | .plain, c => if Text.isBlank c && c != '\n' && c != '\r' then .blank else .enter c
  | .weak, c => if c == '\\' then .weakEscaped else if c == '\x22' then .plain else .weak
  | .weakEscaped, _ => .weak
  | .strong, c => if c == '\\' then .strongEscaped else if c == '\x27' then .plain else .strong
  | .strongEscaped, _ => .strong

/-- Goes through a line: the part of it before a comment, or the state at its end. -/
def QuoteState.scan (state : QuoteState) (before : List Char) :
    List Char → List Char ⊕ QuoteState
  | [] => .inr state
  | c :: rest =>
    if state = .blank ∧ c = '#' then .inl before.reverse
    else QuoteState.scan (state.next c) (c :: before) rest

def dropBreak (line : List Char) : List Char :=
  match line.reverse with
  | '\n' :: '\r' :: rest => rest.reverse
  | '\n' :: rest => rest.reverse
  | _ => line

/-- Joins the lines of a file where a quoted break or a backslash at the end does not end a line.
A line that is no text, or an end of the file within quotes, cannot be read. -/
def joinLines (state : QuoteState) (before : List Char) :
    List (Option (List Char)) → List (Option (List Char))
  | [] => if state = .plain then [] else [none]
  | none :: _ => [none]
  | some line :: rest =>
    let text := before ++ line
    if (text.dropWhile Text.isBlank).head? == some '#' then
      some [] :: joinLines .plain [] rest
    else match state.scan [] line with
      | .inl beforeComment => some (before ++ beforeComment) :: joinLines .plain [] rest
      | .inr .plain => some (dropBreak text) :: joinLines .plain [] rest
      | .inr state => joinLines state text rest

def splitLines : List UInt8 → List (List UInt8)
  | [] => []
  | o :: rest =>
    if o == 10 then [o] :: splitLines rest
    else match splitLines rest with
      | [] => [[o]]
      | line :: lines => (o :: line) :: lines

def dropByteOrderMark : List UInt8 → List UInt8
  | 0xEF :: 0xBB :: 0xBF :: rest => rest
  | octets => octets

def lines (octets : List UInt8) : List (Option (List Char)) :=
  joinLines .plain [] ((splitLines (dropByteOrderMark octets)).map fun line =>
    (Text.decode? line).map String.toList)

/-! ## Values -/

/-- The name of a variable under way in a value: `$NAME`, or `$` and a name in braces. -/
inductive Reference where
  | none
  | open (name : List Char)
  | braced (name : List Char)

/-- A value under way, its characters backwards. -/
structure Expansion where
  out : List Char := []
  strong : Bool := false
  weak : Bool := false
  escaped : Bool := false
  /-- A gap was met: only a comment may follow. -/
  ended : Bool := false
  reference : Reference := .none

namespace Expansion

/-- What a backslash makes of a character. -/
def escape? (c : Char) : Option Char :=
  if c == '\\' || c == '\x27' || c == '\x22' || c == '$' || c == ' ' then some c
  else if c == 'n' then some '\n'
  else none

variable (valueOf : String → String)

def refer (x : Expansion) (name : List Char) : Expansion :=
  { x with
    out := (valueOf (String.ofList name)).toList.reverse ++ x.out
    reference := .none }

/-- The value after a further character; `none` when that is not allowed. -/
def next (x : Expansion) (c : Char) : Option Expansion :=
  if x.escaped then do
    let c ← escape? c
    return { x with out := c :: x.out, escaped := false }
  else if x.strong then
    if c == '\x27' then some { x with strong := false } else some { x with out := c :: x.out }
  else match x.reference with
    | .open name =>
      if Text.isAlphanumeric c then some { x with reference := .open (name ++ [c]) }
      else if c == '\x7b' && name.isEmpty then some { x with reference := .braced [] }
      else
        let x := x.refer valueOf name
        if c == '$' then some { x with reference := .open [] }
        else some { x with out := c :: x.out }
    | .braced name =>
      if c == '\x7d' then some (x.refer valueOf name)
      else some { x with reference := .braced (name ++ [c]) }
    | .none =>
      if c == '$' then some { x with reference := .open [] }
      else if x.weak then
        if c == '\x22' then some { x with weak := false }
        else if c == '\\' then some { x with escaped := true }
        else some { x with out := c :: x.out }
      else if c == '\x27' then some { x with strong := true }
      else if c == '\x22' then some { x with weak := true }
      else if c == '\\' then some { x with escaped := true }
      else if c == ' ' || c == '\t' then some { x with ended := true }
      else some { x with out := c :: x.out }

/-- Goes through a value. After a gap only a comment may follow. -/
def run (x : Expansion) : List Char → Option Expansion
  | [] => some x
  | c :: rest =>
    if x.ended then
      if c == ' ' || c == '\t' then run x rest else if c == '#' then some x else none
    else x.next valueOf c >>= fun x => run x rest

/-- The value at its end, where no quote and no brace may be open. -/
def finish? (x : Expansion) : Option (List Char) :=
  if x.strong || x.weak then none
  else match x.reference with
    | .none => some x.out.reverse
    | .open name => some (x.refer valueOf name).out.reverse
    | .braced _ => none

def expand (cs : List Char) : Option String := do
  let x ← run valueOf {} cs
  let out ← x.finish? valueOf
  return String.ofList out

end Expansion

/-! ## Definitions -/

def beginsKey (c : Char) : Bool := c.isAlpha || c == '_'

def continuesKey (c : Char) : Bool := c.isAlphanum || c == '_' || c == '.'

def readKey (cs : List Char) : Option (List Char × List Char) :=
  if cs.head?.any beginsKey then
    let key := cs.takeWhile continuesKey
    some (key, (cs.drop key.length).dropWhile Text.isBlank)
  else none

def readEquals : List Char → Option (List Char)
  | '=' :: rest => some rest
  | _ => none

/-- Reads the name of a variable and `=`. The word `export` may stand before the name, and may be a
name itself. -/
def readName (cs : List Char) : Option (List Char × List Char) := do
  let (key, rest) ← readKey cs
  match readEquals rest with
  | some value => return (key, value)
  | none =>
    if key == "export".toList then
      let (key, rest) ← readKey rest
      let value ← readEquals rest
      return (key, value)
    else none

/-- A line of a file: it sets a variable, or nothing. -/
inductive Line where
  | nothing
  | set (name value : String)

/-- Reads a line; `none` when it cannot be read. -/
def Line.parse (valueOf : String → String) (line : List Char) : Option Line :=
  let cs := (Text.dropTrailing Text.isBlank line).dropWhile Text.isBlank
  if cs.isEmpty || cs.head? == some '#' then some .nothing
  else do
    let (name, rest) ← readName cs
    let written := rest.dropWhile Text.isBlank
    let value ←
      if written.isEmpty || written.head? == some '#' then some ""
      else Expansion.expand valueOf written
    return .set (String.ofList name) value

/-- Sets the variables of lines that the environment does not have. `written` holds what the lines
before said, which a value may refer to if the environment does not have it. -/
def load (e : Environment) (written : List (String × String)) :
    List (Option (List Char)) → Environment
  | [] => e
  | none :: _ => e
  | some line :: rest =>
    let valueOf (name : String) : String :=
      ((e.text? name).or (written.lookup name)).getD ""
    match Line.parse valueOf line with
    | none => e
    | some .nothing => load e written rest
    | some (.set name value) =>
      let e := if (e.text? name).isSome then e else e.put name value
      load e ((name, value) :: written) rest

end EnvironmentFile

/-- The environment with the variables of a file that it does not have. -/
def Environment.load (e : Environment) (octets : List UInt8) : Environment :=
  EnvironmentFile.load e [] (EnvironmentFile.lines octets)

end ProjectPicker
