import ProjectPicker.Text.CodePoints

/-!
# White space

* `isBlank` : the characters with the Unicode property `White_Space`;
* `trim` : a text without its blanks at both ends;
* `isBlankText` : a text of blanks only.
-/

set_option autoImplicit false

namespace ProjectPicker.Text

/-- The characters with the Unicode property `White_Space`. -/
def blanks : CodePoints :=
  ⟨[(0x9, 0xD), (0x20, 0x20), (0x85, 0x85), (0xA0, 0xA0), (0x1680, 0x1680), (0x2000, 0x200A),
    (0x2028, 0x2029), (0x202F, 0x202F), (0x205F, 0x205F), (0x3000, 0x3000)]⟩

def isBlank (c : Char) : Bool := blanks.contains c

def dropTrailing (p : Char → Bool) (cs : List Char) : List Char :=
  (cs.reverse.dropWhile p).reverse

def trimChars (cs : List Char) : List Char :=
  dropTrailing isBlank (cs.dropWhile isBlank)

/-- A text without its blanks at both ends. -/
def trim (s : String) : String := String.ofList (trimChars s.toList)

/-- A text is blank when nothing is left of it after trimming. -/
def isBlankText (s : String) : Bool := (trimChars s.toList).isEmpty

end ProjectPicker.Text
