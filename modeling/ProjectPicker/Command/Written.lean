import ProjectPicker.Command
import ProjectPicker.Json
import ProjectPicker.Outline

/-!
# Writing commands

* `Source.toJson`, `Command.toJson`, `Script.toJson` : their JSON, where a command names its action
  first;
* `Source.outline`, `Command.outline`, `Script.outline` : their outlines.
-/

set_option autoImplicit false

namespace ProjectPicker

def Source.toJson (s : Source) : Json := .str s.word

def Source.outline : Source → Outline
  | .templates => .word "Templates"
  | .git => .word "Git"
  | .zip => .word "Zip"

namespace Command

def fields : Command → List (String × Json)
  | .selectStack id => [("stack_id", .ofOption .str id)]
  | .setGitLocation location => [("location", .str location)]
  | .setZipLocation location skip =>
    [("location", .str location), ("skip_first_level", .bool skip)]
  | .toggleTemplate name checked => [("name", .str name), ("checked", .bool checked)]
  | .addFromSource source => [("source", source.toJson)]
  | .renameProject old new => [("from", .str old), ("to", .str new)]

def toJson (c : Command) : Json := .record (("action", .str c.action.word) :: c.fields)

def outline : Command → Outline
  | .selectStack id => .record "SelectStack" [("stack_id", .ofOption .quoted id)]
  | .setGitLocation location => .record "SetGitLocation" [("location", .quoted location)]
  | .setZipLocation location skip =>
    .record "SetZipLocation"
      [("location", .quoted location), ("skip_first_level", .ofBool skip)]
  | .toggleTemplate name checked =>
    .record "ToggleTemplate" [("name", .quoted name), ("checked", .ofBool checked)]
  | .addFromSource source => .record "AddFromSource" [("source", source.outline)]
  | .renameProject old new => .record "RenameProject" [("from", .quoted old), ("to", .quoted new)]

end Command

namespace Script

def toJson (s : Script) : Json := .record [("commands", .array (s.commands.map Command.toJson))]

def outline (s : Script) : Outline :=
  .record "WizardScript" [("commands", .list (s.commands.map Command.outline))]

end Script

end ProjectPicker
