/-!
# Counts below 2⁶⁴

* `CountError` : why a text is no count;
* `readCount` : a count in decimal digits, with an optional `+` before them.
-/

set_option autoImplicit false

namespace ProjectPicker.Text

/-- Why a text is no count. -/
inductive CountError where
  | empty
  | invalidDigit
  | tooLarge
  deriving DecidableEq, Repr

def CountError.message : CountError → String
  | .empty => "cannot parse integer from empty string"
  | .invalidDigit => "invalid digit found in string"
  | .tooLarge => "number too large to fit in target type"

def countBound : Nat := Nat.pow 2 64

/-- Reads digits from the left after the number `n`; the first fault met decides the error. -/
def readDigits (n : Nat) : List Char → Except CountError Nat
  | [] => .ok n
  | c :: rest =>
    if c.isDigit then
      let n := n * 10 + (c.toNat - '0'.toNat)
      if n < countBound then readDigits n rest else .error .tooLarge
    else .error .invalidDigit

/-- A count in decimal digits, with an optional `+` before them. -/
def readCount (s : String) : Except CountError Nat :=
  match s.toList with
  | [] => .error .empty
  | ['+'] => .error .invalidDigit
  | '+' :: digits => readDigits 0 digits
  | digits => readDigits 0 digits

end ProjectPicker.Text
