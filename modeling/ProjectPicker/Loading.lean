import ProjectPicker.Catalogue
import ProjectPicker.Command.Decoder

/-!
# Loading stacks and scripts

* `Stack.ofFile` : the stacks in a file, each of which has to have an id;
* `Script.ofFile` : the script in a file.
-/

set_option autoImplicit false

namespace ProjectPicker

def decodeFile {α : Type} (kind path : String)
    (decoder : Form Yaml.Node Yaml.Decoding → Yaml.Node → Yaml.Decoding α)
    (octets : Except FileError (List UInt8)) : Except Failure α :=
  match Catalogue.fileText octets with
  | .error e =>
    .error (Failure.within ("failed to read " ++ kind ++ " `" ++ path ++ "`") ⟨e.message, []⟩)
  | .ok text =>
    match Yaml.decode decoder text with
    | .ok a => .ok a
    | .error e =>
      .error (Failure.within ("failed to parse " ++ kind ++ " `" ++ path ++ "`") ⟨e.message, []⟩)

/-- The stacks in a file, each of which has to have an id that is not blank. -/
def Stack.ofFile (path : String) (octets : Except FileError (List UInt8)) :
    Except Failure (List Stack) := do
  let stackList ← decodeFile "stacks file" path Stack.decodeList octets
  if stackList.any fun s => Text.isBlankText s.id then
    throw ⟨"stacks file `" ++ path ++ "` contains a stack without an id", []⟩
  return stackList

def Script.ofFile (path : String) (octets : Except FileError (List UInt8)) :
    Except Failure Script :=
  decodeFile "wizard script" path Script.decode octets

end ProjectPicker
