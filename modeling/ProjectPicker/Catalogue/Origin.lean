import ProjectPicker.Text.Blank
import ProjectPicker.Text.LowerCase

/-!
# Where a catalogue comes from

* `Origin` : a file or a web address;
* `Origin.parse?` : reads what a user may type for it;
* `Origin.text` : shows it.
-/

set_option autoImplicit false

namespace ProjectPicker

/-- Where a catalogue comes from. -/
inductive Origin where
  | file (path : String)
  | http (url : String)
  deriving DecidableEq, Repr

namespace Origin

/-- Web addresses begin with one of these, in letters of either case. -/
def schemes : List String := ["http://", "https://"]

def isWebAddress (text : String) : Bool :=
  schemes.any fun s => s.toList.isPrefixOf (Text.lowerAscii text).toList

/-- Reads what a user may type. Blanks around it do not count, and only blanks name no origin. -/
def parse? (text : String) : Option Origin :=
  let typed := Text.trim text
  if typed.isEmpty then none
  else if isWebAddress typed then some (.http typed)
  else some (.file typed)

def emptyMessage : String := "templates source cannot be empty"

def text : Origin → String
  | .file path => path
  | .http url => url

end Origin

end ProjectPicker
