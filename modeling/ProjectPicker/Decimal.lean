/-!
# Decimal numbers

* `Decimal` : a number in scientific notation, as it is written;
* `Decimal.isFinite` : whether it is finite when rounded to 64-bit binary floating point;
* `Decimal.text` : its digits.
-/

set_option autoImplicit false

namespace ProjectPicker

/-- The number `± digits · 10 ^ exponent`. -/
structure Decimal where
  negative : Bool := false
  digits : Nat
  exponent : Int := 0
  deriving DecidableEq, Repr, Inhabited

namespace Decimal

def ofNat (n : Nat) : Decimal := { digits := n }

/-- The least magnitude that 64-bit floating point rounds to infinity: half a unit beyond the
largest finite number. -/
def overflowBound : Nat := Nat.pow 2 1024 - Nat.pow 2 970

/-- The number of decimal digits of a number; `0` has one. -/
def width (n : Nat) : Nat := (Nat.toDigits 10 n).length

/-- Whether the number is finite when rounded to 64-bit floating point. The number of digits
settles all but a few magnitudes, so no large power is taken for the others. -/
def isFinite (d : Decimal) : Bool :=
  let magnitude : Int := width d.digits + d.exponent
  if d.digits == 0 || magnitude < 300 then true
  else if magnitude > 320 then false
  else match d.exponent with
    | .ofNat e => d.digits * Nat.pow 10 e < overflowBound
    | .negSucc e => d.digits < overflowBound * Nat.pow 10 (e + 1)

/-- The digits, with the exponent where it is not zero. -/
def text (d : Decimal) : String :=
  (if d.negative then "-" else "") ++ String.ofList (Nat.toDigits 10 d.digits) ++
    (if d.exponent == 0 then "" else "e" ++ toString d.exponent)

def digitsValue (cs : List Char) : Nat :=
  cs.foldl (fun n c => n * 10 + (c.toNat - '0'.toNat)) 0

end Decimal

end ProjectPicker
