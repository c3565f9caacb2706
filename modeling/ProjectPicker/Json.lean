import ProjectPicker.Decimal

/-!
# JSON values

* `Json` : a value as far as its text can be read. `cut` stands where the text stops being JSON,
  and a text that cannot be decoded is one whose escapes name no character;
* `Json.str`, `Json.list`, `Json.record` : values that are written;
* `Json.compact`, `Json.pretty` : their texts, on one line and indented.
-/

set_option autoImplicit false

namespace ProjectPicker

/-- A JSON value as far as its text can be read. Members are pairs of values; in JSON proper the
first of each is a text. -/
inductive Json where
  | null
  | bool (b : Bool)
  | number (integral : Bool) (d : Decimal)
  | text (s : Option String)
  | array (items : List Json)
  | object (members : List (Json × Json))
  | cut
  deriving Inhabited

namespace Json

def str (s : String) : Json := .text (some s)

def nat (n : Nat) : Json := .number true (.ofNat n)

def record (members : List (String × Json)) : Json := .object (members.map fun m => (.str m.1, m.2))

def strings (ss : List String) : Json := .array (ss.map str)

def ofOption {α : Type} (json : α → Json) : Option α → Json
  | none => .null
  | some a => json a

/-! ## Writing -/

def hexDigit (n : Nat) : Char := Nat.digitChar n

/-- How a character is written in a text: quotes, backslashes and controls are escaped. -/
def escapeChar (c : Char) : List Char :=
  if c = '\x22' then ['\\', '\x22']
  else if c = '\\' then ['\\', '\\']
  else if c = '\x08' then ['\\', 'b']
  else if c = '\x0c' then ['\\', 'f']
  else if c = '\n' then ['\\', 'n']
  else if c = '\r' then ['\\', 'r']
  else if c = '\t' then ['\\', 't']
  else if c.toNat < 0x20 then
    ['\\', 'u', '0', '0', hexDigit (c.toNat / 16), hexDigit (c.toNat % 16)]
  else [c]

def quoteChars (cs : List Char) : List Char := '\x22' :: cs.flatMap escapeChar ++ ['\x22']

/-- What stands between the parts of an array or an object. -/
structure Layout where
  /-- What follows an opening bracket, and each comma, at a depth. -/
  newline : Nat → List Char
  /-- What follows a colon. -/
  afterColon : List Char

def Layout.compact : Layout := ⟨fun _ => [], []⟩

/-- Each part on a line of its own, indented by two spaces a level. -/
def Layout.pretty : Layout := ⟨fun depth => '\n' :: List.replicate (2 * depth) ' ', [' ']⟩

mutual

/-- The characters of a value at a depth. -/
def chars (l : Layout) (depth : Nat) : Json → List Char
  | .null => "null".toList
  | .bool true => "true".toList
  | .bool false => "false".toList
  | .number _ d => d.text.toList
  | .text s => quoteChars (s.getD "").toList
  | .array [] => ['[', ']']
  | .array (j :: rest) =>
    '[' :: l.newline (depth + 1) ++ chars l (depth + 1) j ++ itemChars l (depth + 1) rest ++
      l.newline depth ++ [']']
  | .object [] => ['\x7b', '\x7d']
  | .object ((k, v) :: rest) =>
    '\x7b' :: l.newline (depth + 1) ++ chars l (depth + 1) k ++ ':' :: l.afterColon ++
      chars l (depth + 1) v ++ memberChars l (depth + 1) rest ++ l.newline depth ++ ['\x7d']
  | .cut => []

def itemChars (l : Layout) (depth : Nat) : List Json → List Char
  | [] => []
  | j :: rest => ',' :: l.newline depth ++ chars l depth j ++ itemChars l depth rest

def memberChars (l : Layout) (depth : Nat) : List (Json × Json) → List Char
  | [] => []
  | (k, v) :: rest =>
    ',' :: l.newline depth ++ chars l depth k ++ ':' :: l.afterColon ++ chars l depth v ++
      memberChars l depth rest

end

def compact (j : Json) : String := String.ofList (chars .compact 0 j)

def pretty (j : Json) : String := String.ofList (chars .pretty 0 j)

end Json

end ProjectPicker
