import ProjectPicker.Text.Quoted.Invisible

/-!
# Quoted texts

* `hexDigits` : a number in lower-case hexadecimal without leading zeros;
* `quoteChar`, `quote` : a text between double quotes in which everything that would not be seen
  is written as an escape.
-/

set_option autoImplicit false

namespace ProjectPicker.Text

/-- A number in lower-case hexadecimal without leading zeros. -/
def hexDigits (n : Nat) : List Char := Nat.toDigits 16 n

/-- How a character is written between double quotes: the usual short escapes, the code point for
what would not be seen, and itself otherwise. -/
def quoteChar (c : Char) : List Char :=
  if c = '\x00' then ['\\', '0']
  else if c = '\t' then ['\\', 't']
  else if c = '\n' then ['\\', 'n']
  else if c = '\r' then ['\\', 'r']
  else if c = '\\' then ['\\', '\\']
  else if c = '\x22' then ['\\', '\x22']
  else if extendsGrapheme c || isUnprintable c then
    ['\\', 'u', '\x7b'] ++ hexDigits c.toNat ++ ['\x7d']
  else [c]

def quote (s : String) : String :=
  String.ofList ('\x22' :: s.toList.flatMap quoteChar ++ ['\x22'])

end ProjectPicker.Text
