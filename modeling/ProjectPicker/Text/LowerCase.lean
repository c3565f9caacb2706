import ProjectPicker.Text.LowerCase.Runs
import ProjectPicker.Text.LowerCase.Context

/-!
# Lower case

* `lowerChar` : the one-to-one lower case of a character;
* `endsWord` : whether a capital sigma between two texts stands at the end of a word;
* `lowerChars`, `lower` : the lower case of a text, in which `İ` becomes two characters and a
  capital sigma takes its final form at the end of a word.
-/

set_option autoImplicit false

namespace ProjectPicker.Text

/-- The one-to-one lower case of a character; a character without one stays. -/
def lowerChar (c : Char) : Char :=
  match caseRuns.find? (·.covers c.toNat) with
  | some r => Char.ofNat (c.toNat + r.shift).toNat
  | none => c

/-- The first character that is not case-ignorable is a cased one. -/
def meetsCased (cs : List Char) : Bool :=
  match cs.dropWhile isCaseIgnorable with
  | c :: _ => isCased c
  | [] => false

/-- A capital sigma ends a word when, case-ignorable characters apart, a cased character comes
before it and none comes after it. `before` is the text before it, nearest character first. -/
def endsWord (before after : List Char) : Bool :=
  meetsCased before && !meetsCased after

/-- The lower case of `cs` after the text `before`, which is given nearest character first. -/
def lowerCharsFrom (before : List Char) : List Char → List Char
  | [] => []
  | c :: rest =>
    if c = 'Σ' then (if endsWord before rest then 'ς' else 'σ') :: lowerCharsFrom (c :: before) rest
    else if c = 'İ' then 'i' :: '\u0307' :: lowerCharsFrom (c :: before) rest
    else lowerChar c :: lowerCharsFrom (c :: before) rest

def lowerChars (cs : List Char) : List Char := lowerCharsFrom [] cs

/-- The lower case of a text. -/
def lower (s : String) : String := String.ofList (lowerChars s.toList)

/-- The lower case of the letters `A` to `Z`; every other character stays. -/
def lowerAscii (s : String) : String := s.map Char.toLower

end ProjectPicker.Text
