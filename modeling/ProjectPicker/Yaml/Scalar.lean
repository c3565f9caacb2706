import ProjectPicker.Decimal
import ProjectPicker.Form
import ProjectPicker.Text.Digit
import ProjectPicker.Yaml.Node

/-!
# Types of scalars

* `isNull`, `bool?` : the words for nothing and for truth values;
* `Integer`, `integer?`, `isFloat` : numbers;
* `plainContent`, `scalarContent` : the content of a scalar.

A plain scalar is what it looks like. A core tag asks for its type, and quotes make a text.
-/

set_option autoImplicit false

namespace ProjectPicker.Yaml

/-! ## Words -/

def isNull (s : String) : Bool := s == "null" || s == "Null" || s == "NULL" || s == "~"

def bool? (s : String) : Option Bool :=
  if s == "true" || s == "True" || s == "TRUE" then some true
  else if s == "false" || s == "False" || s == "FALSE" then some false
  else none

/-! ## Numbers -/

def dropSign : List Char → List Char
  | '-' :: rest => rest
  | '+' :: rest => rest
  | cs => cs

def hasSign : List Char → Bool
  | '-' :: _ => true
  | '+' :: _ => true
  | _ => false

/-- Whether the text is of digits but no number, because it begins with a zero that says nothing. -/
def isPadded (cs : List Char) : Bool :=
  match dropSign cs with
  | '0' :: rest => !rest.isEmpty && rest.all Char.isDigit
  | _ => false

def digits? (base : Nat) (cs : List Char) : Option Nat :=
  if cs.isEmpty then none else Text.digitsValue? base cs

def based? (cs : List Char) : Option Nat :=
  match cs with
  | '0' :: 'x' :: rest => digits? 16 rest
  | '0' :: 'o' :: rest => digits? 8 rest
  | '0' :: 'b' :: rest => digits? 2 rest
  | _ => none

/-- The magnitude of an integer without its sign: in another base, or in decimal digits that are
not padded. -/
def magnitude? (cs : List Char) : Option Nat :=
  match based? cs with
  | some n => some n
  | none => if isPadded cs then none else digits? 10 cs

/-- Integers by the number of bits that they need. -/
inductive Integer where
  /-- Up to 64 bits and not negative. -/
  | natural (n : Nat)
  /-- Up to 64 bits with a sign. -/
  | negative
  /-- Up to 128 bits. -/
  | wide
  deriving DecidableEq

/-- The integer of a text, if it is one of at most 128 bits. -/
def integer? (s : String) : Option Integer :=
  match s.toList with
  | '-' :: rest => do
    let n ← magnitude? rest
    if n ≤ Nat.pow 2 63 then some .negative
    else if n ≤ Nat.pow 2 127 then some .wide
    else none
  | cs => do
    let n ← magnitude? (if cs.head? == some '+' then cs.tail else cs)
    if n < Nat.pow 2 64 then some (.natural n)
    else if n < Nat.pow 2 128 then some .wide
    else none

def exponent? : List Char → Option Int
  | [] => some 0
  | e :: rest =>
    let digits := dropSign rest
    if (e == 'e' || e == 'E') && !digits.isEmpty && digits.all Char.isDigit then
      let n : Int := Decimal.digitsValue digits
      some (if rest.head? == some '-' then -n else n)
    else none

def decimal? (cs : List Char) : Option Decimal := do
  let whole := cs.takeWhile Char.isDigit
  let rest := cs.dropWhile Char.isDigit
  let (part, rest) := match rest with
    | '.' :: more => (more.takeWhile Char.isDigit, more.dropWhile Char.isDigit)
    | _ => ([], rest)
  if whole.isEmpty && part.isEmpty then none
  let e ← exponent? rest
  return { digits := Decimal.digitsValue (whole ++ part), exponent := e - part.length }

def isInfinity (s : String) : Bool := s == ".inf" || s == ".Inf" || s == ".INF"

def isNotANumber (s : String) : Bool := s == ".nan" || s == ".NaN" || s == ".NAN"

/-- Whether a text is a floating-point number: a word for one, or a finite decimal number. -/
def isFloat (s : String) : Bool :=
  let cs := s.toList
  let unsigned := dropSign cs
  !hasSign unsigned &&
    (isInfinity (String.ofList unsigned) || isNotANumber s ||
      (decimal? unsigned).any Decimal.isFinite)

/-! ## Contents -/

/-- The content of an integer. One that needs more than 64 bits is of no type that is known. -/
def Integer.content : Integer → Except DecodeError Content
  | .natural n => .ok (.index n)
  | .negative => .ok .number
  | .wide => .error .invalidType

def plainContent (s : String) : Except DecodeError Content :=
  if s.isEmpty || isNull s then .ok .unit
  else match bool? s with
    | some b => .ok (.bool b)
    | none =>
      match integer? s with
      | some i => i.content
      | none =>
        if !isPadded s.toList && isFloat s then .ok .number else .ok (.text s)

def coreContent? (tag : Tag) (s : String) : Option (Except DecodeError Content) :=
  if tag == Tag.ofCore "bool" then
    some (match bool? s with
      | some b => .ok (.bool b)
      | none => .error .invalidValue)
  else if tag == Tag.ofCore "int" then
    some (match integer? s with
      | some i => i.content
      | none => .error .invalidValue)
  else if tag == Tag.ofCore "float" then
    some (if isFloat s then .ok .number else .error .invalidValue)
  else if tag == Tag.ofCore "null" then
    some (if isNull s then .ok .unit else .error .invalidValue)
  else none

/-- The content of a scalar, whatever stands after `!` in its tag. -/
def scalarContent (tag : Option Tag) (s : String) (plain : Bool) : Except DecodeError Content :=
  match tag with
  | none => if plain then plainContent s else .ok (.text s)
  | some tag =>
    match coreContent? tag s with
    | some content => content
    | none => if tag.head? == some 33 && plain then plainContent s else .ok (.text s)

end ProjectPicker.Yaml
