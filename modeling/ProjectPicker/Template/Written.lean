import ProjectPicker.Json
import ProjectPicker.Outline
import ProjectPicker.Stack

/-!
# Writing templates and stacks

* `toJson` : the JSON of parameters, sources, templates and stacks. A source that is absent, and
  parameters that are empty, are left out;
* `outline` : their outlines.
-/

set_option autoImplicit false

namespace ProjectPicker

namespace Parameters

def toJson (p : Parameters) : Json := .record (p.entries.map fun e => (e.1, .str e.2))

def outline (p : Parameters) : Outline := .dictionary (p.entries.map fun e => (e.1, .quoted e.2))

end Parameters

namespace SourceLocation

def toJson (s : SourceLocation) : Json :=
  .record ([("type", .str s.kind), ("location", .str s.location)] ++
    if s.parameters.isEmpty then [] else [("parameters", s.parameters.toJson)])

def outline (s : SourceLocation) : Outline :=
  .record "ProjectSourceLocation"
    [("kind", .quoted s.kind), ("location", .quoted s.location),
      ("parameters", s.parameters.outline)]

end SourceLocation

def outlineTexts (texts : List String) : Outline := .list (texts.map .quoted)

namespace Template

def toJson (t : Template) : Json :=
  .record ([("name", .str t.name), ("displayName", .str t.displayName),
    ("description", .str t.description), ("projectType", .str t.projectType),
    ("category", .str t.category), ("tags", .strings t.tags), ("path", .str t.path)] ++
    match t.source with
    | some source => [("source", source.toJson)]
    | none => [])

def outline (t : Template) : Outline :=
  .record "ProjectTemplate"
    [("name", .quoted t.name), ("display_name", .quoted t.displayName),
      ("description", .quoted t.description), ("project_type", .quoted t.projectType),
      ("category", .quoted t.category), ("tags", outlineTexts t.tags), ("path", .quoted t.path),
      ("source", .ofOption SourceLocation.outline t.source)]

end Template

namespace Stack

def toJson (s : Stack) : Json :=
  .record [("id", .str s.id), ("name", .str s.name), ("tags", .strings s.tags)]

def outline (s : Stack) : Outline :=
  .record "Stack" [("id", .quoted s.id), ("name", .quoted s.name), ("tags", outlineTexts s.tags)]

end Stack

end ProjectPicker
