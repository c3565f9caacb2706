import ProjectPicker.Json
import ProjectPicker.Text.Digit

/-!
# Reading JSON

* `Json.readText`, `Json.readNumber` : the texts and numbers of JSON;
* `Json.readValue` : a value at the start of a text. What cannot be read becomes `cut`, and nothing
  is read after it;
* `Json.Document`, `Json.read` : a value, and whether nothing but blanks follows it.
-/

set_option autoImplicit false

namespace ProjectPicker.Json

def isBlank (c : Char) : Bool := c == ' ' || c == '\t' || c == '\n' || c == '\r'

def skipBlanks (cs : List Char) : List Char := cs.dropWhile isBlank

/-! ## Texts -/

def hexUnit? (a b c d : Char) : Option Nat := do
  let a ← Text.hexValue? a
  let b ← Text.hexValue? b
  let c ← Text.hexValue? c
  let d ← Text.hexValue? d
  return ((a * 16 + b) * 16 + c) * 16 + d

def shortEscape? : Char → Option Char
  | '\x22' => some '\x22'
  | '\\' => some '\\'
  | '/' => some '/'
  | 'b' => some '\x08'
  | 'f' => some '\x0c'
  | 'n' => some '\n'
  | 'r' => some '\r'
  | 't' => some '\t'
  | _ => none

def isHighSurrogate (n : Nat) : Bool := 0xD800 ≤ n && n ≤ 0xDBFF

def isLowSurrogate (n : Nat) : Bool := 0xDC00 ≤ n && n ≤ 0xDFFF

def consDecoded (c : Option Char) : Option (List Char) → Option (List Char)
  | some cs => c.map (· :: cs)
  | none => none

/-- Reads a text after its opening quote: its characters, unless an escape names none, and what
follows the closing quote. `none` when the text is no JSON. -/
def readText : List Char → Option (Option (List Char) × List Char)
  | [] => none
  | '\x22' :: rest => some (some [], rest)
  | '\\' :: 'u' :: a :: b :: c :: d :: '\\' :: 'u' :: e :: f :: g :: h :: rest =>
    match hexUnit? a b c d, hexUnit? e f g h with
    | some u, some v =>
      if isHighSurrogate u && isLowSurrogate v then
        (readText rest).map fun r =>
          (consDecoded (some (Char.ofNat (0x10000 + (u - 0xD800) * 0x400 + (v - 0xDC00)))) r.1, r.2)
      else
        (readText ('\\' :: 'u' :: e :: f :: g :: h :: rest)).map fun r =>
          (consDecoded (unitChar u) r.1, r.2)
    | _, _ => none
  | '\\' :: 'u' :: a :: b :: c :: d :: rest =>
    match hexUnit? a b c d with
    | some u => (readText rest).map fun r => (consDecoded (unitChar u) r.1, r.2)
    | none => none
  | '\\' :: c :: rest =>
    match shortEscape? c with
    | some c => (readText rest).map fun r => (consDecoded (some c) r.1, r.2)
    | none => none
  | c :: rest =>
    if c.toNat < 0x20 || c == '\\' then none
    else (readText rest).map fun r => (consDecoded (some c) r.1, r.2)
where
  /-- The character of a unit that stands alone; a surrogate is none. -/
  unitChar (u : Nat) : Option Char :=
    if isHighSurrogate u || isLowSurrogate u then none else some (Char.ofNat u)

/-! ## Numbers -/

/-- Splits off the leading digits, of which there must be some. -/
def readDigits (cs : List Char) : Option (List Char × List Char) :=
  match cs.takeWhile Char.isDigit with
  | [] => none
  | ds => some (ds, cs.dropWhile Char.isDigit)

/-- The digits of an integer: `0` alone, or no `0` in front. -/
def readInteger : List Char → Option (List Char × List Char)
  | '0' :: rest =>
    match rest with
    | c :: _ => if c.isDigit then none else some (['0'], rest)
    | [] => some (['0'], rest)
  | cs => readDigits cs

def readFraction : List Char → Option (List Char × List Char)
  | '.' :: rest => readDigits rest
  | cs => some ([], cs)

def readSigned : List Char → Option (Int × List Char)
  | '+' :: rest => (readDigits rest).map fun r => (Decimal.digitsValue r.1, r.2)
  | '-' :: rest => (readDigits rest).map fun r => (-(Decimal.digitsValue r.1 : Int), r.2)
  | rest => (readDigits rest).map fun r => (Decimal.digitsValue r.1, r.2)

def readExponent : List Char → Option (Option Int × List Char)
  | 'e' :: rest | 'E' :: rest => (readSigned rest).map fun r => (some r.1, r.2)
  | cs => some (none, cs)

def readUnsigned (negative : Bool) (cs : List Char) : Option (Json × List Char) := do
  let (whole, cs) ← readInteger cs
  let (fraction, cs) ← readFraction cs
  let (exponent, cs) ← readExponent cs
  return (.number (fraction.isEmpty && exponent.isNone)
    { negative
      digits := Decimal.digitsValue (whole ++ fraction)
      exponent := exponent.getD 0 - fraction.length }, cs)

def readNumber : List Char → Option (Json × List Char)
  | '-' :: rest => readUnsigned true rest
  | cs => readUnsigned false cs

/-! ## Values -/

def readScalar : List Char → Option (Json × List Char)
  | 'n' :: 'u' :: 'l' :: 'l' :: rest => some (.null, rest)
  | 't' :: 'r' :: 'u' :: 'e' :: rest => some (.bool true, rest)
  | 'f' :: 'a' :: 'l' :: 's' :: 'e' :: rest => some (.bool false, rest)
  | '\x22' :: rest => (readText rest).map fun r => (.text (r.1.map String.ofList), r.2)
  | cs => readNumber cs

/-- A value that stands where the name of a member is expected: what kind it is, without looking
into it. -/
def readMisplaced : List Char → Json
  | '[' :: _ => .array []
  | '\x7b' :: _ => .object []
  | cs => ((readScalar cs).map (·.1)).getD .cut

mutual

/-- Reads a value, and what follows it unless it is cut. -/
def readValue : Nat → List Char → Json × Option (List Char)
  | 0, _ => (.cut, none)
  | fuel + 1, cs =>
    match skipBlanks cs with
    | '[' :: rest =>
      match skipBlanks rest with
      | ']' :: rest => (.array [], some rest)
      | rest =>
        let (items, rest) := readItems fuel rest
        (.array items, rest)
    | '\x7b' :: rest =>
      match skipBlanks rest with
      | '\x7d' :: rest => (.object [], some rest)
      | rest =>
        let (members, rest) := readMembers fuel rest
        (.object members, rest)
    | cs =>
      match readScalar cs with
      | some (j, rest) => (j, some rest)
      | none => (.cut, none)

/-- Reads the items of an array, of which there is at least one more. -/
def readItems : Nat → List Char → List Json × Option (List Char)
  | 0, _ => ([.cut], none)
  | fuel + 1, cs =>
    match readValue fuel cs with
    | (j, none) => ([j], none)
    | (j, some rest) =>
      match skipBlanks rest with
      | ']' :: rest => ([j], some rest)
      | ',' :: rest =>
        let (items, rest) := readItems fuel rest
        (j :: items, rest)
      | _ => ([j, .cut], none)

def readMembers : Nat → List Char → List (Json × Json) × Option (List Char)
  | 0, _ => ([(.cut, .cut)], none)
  | fuel + 1, cs =>
    match skipBlanks cs with
    | '\x22' :: rest =>
      match readText rest with
      | none => ([(.cut, .cut)], none)
      | some (name, rest) =>
        let key := Json.text (name.map String.ofList)
        match skipBlanks rest with
        | ':' :: rest =>
          match readValue fuel rest with
          | (j, none) => ([(key, j)], none)
          | (j, some rest) =>
            match skipBlanks rest with
            | '\x7d' :: rest => ([(key, j)], some rest)
            | ',' :: rest =>
              let (members, rest) := readMembers fuel rest
              ((key, j) :: members, rest)
            | _ => ([(key, j), (.cut, .cut)], none)
        | _ => ([(key, .cut)], none)
    | cs => ([(readMisplaced cs, .cut)], none)

end

/-- A JSON text: its value, and whether nothing but blanks follows it. -/
structure Document where
  value : Json
  isWhole : Bool

/-- Reads a JSON text. Every step into an array or an object takes at least one character, so twice
their number is enough for the depth. -/
def read (text : String) : Document :=
  let cs := text.toList
  match readValue (2 * cs.length + 2) cs with
  | (value, some rest) => ⟨value, (skipBlanks rest).isEmpty⟩
  | (value, none) => ⟨value, true⟩

end ProjectPicker.Json
