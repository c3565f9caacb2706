/-!
# Octets as text

* `decode?` : the text whose UTF-8 form the octets are, if they are one;
* `decodeLossy` : the text in which each longest run that starts a character without finishing it
  is replaced by `U+FFFD`.
-/

set_option autoImplicit false

namespace ProjectPicker.Text

def decode? (octets : List UInt8) : Option String := String.fromUTF8? ⟨octets.toArray⟩

/-- What the first octet of a character asks of the next ones: how many follow, and the range that
the first of them lies in. -/
def leadOctet (b : Nat) : Option (Nat × Nat × Nat) :=
  if b < 0x80 then some (0, 0x80, 0xBF)
  else if 0xC2 ≤ b && b ≤ 0xDF then some (1, 0x80, 0xBF)
  else if b = 0xE0 then some (2, 0xA0, 0xBF)
  else if b = 0xED then some (2, 0x80, 0x9F)
  else if 0xE1 ≤ b && b ≤ 0xEF then some (2, 0x80, 0xBF)
  else if b = 0xF0 then some (3, 0x90, 0xBF)
  else if 0xF1 ≤ b && b ≤ 0xF3 then some (3, 0x80, 0xBF)
  else if b = 0xF4 then some (3, 0x80, 0x8F)
  else none

/-- Reads octets one at a time. `pending` is the character under way: its value so far, how many
octets it still lacks, and the range of the next one. -/
def decodeLossyFrom (pending : Option (Nat × Nat × Nat × Nat)) : List UInt8 → List Char
  | [] => if pending.isSome then ['\uFFFD'] else []
  | o :: rest =>
    let b := o.toNat
    match pending with
    | some (value, more, low, high) =>
      if low ≤ b && b ≤ high then
        let value := value * 64 + b % 64
        if more ≤ 1 then Char.ofNat value :: decodeLossyFrom none rest
        else decodeLossyFrom (some (value, more - 1, 0x80, 0xBF)) rest
      else '\uFFFD' :: start b rest
    | none => start b rest
where
  /-- Starts a character at the octet `b`. -/
  start (b : Nat) (rest : List UInt8) : List Char :=
    match leadOctet b with
    | some (0, _, _) => Char.ofNat b :: decodeLossyFrom none rest
    | some (1, low, high) => decodeLossyFrom (some (b % 32, 1, low, high)) rest
    | some (2, low, high) => decodeLossyFrom (some (b % 16, 2, low, high)) rest
    | some (n, low, high) => decodeLossyFrom (some (b % 8, n, low, high)) rest
    | none => '\uFFFD' :: decodeLossyFrom none rest

/-- The octets as text, with `U+FFFD` for what is not UTF-8. -/
def decodeLossy (octets : List UInt8) : String := String.ofList (decodeLossyFrom none octets)

end ProjectPicker.Text
