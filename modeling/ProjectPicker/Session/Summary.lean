import ProjectPicker.Session
import ProjectPicker.Template.Written

/-!
# Summaries of sessions

* `Session.summary` : what a session shows when it is over.
-/

set_option autoImplicit false

namespace ProjectPicker.Session

/-- What a session shows: the active stack, the templates listed and how many are checked, the
locations typed, and the projects ready to import. -/
def summary (s : Session) : Json :=
  .record [
    ("stack_id", .ofOption .str s.board.activeStack),
    ("filtered_templates", .strings (Template.names s.selector.listed)),
    ("new_templates_number", .nat s.selector.count),
    ("templates_selected", .bool (Selector.anySelected s.selector.count)),
    ("git_location", .str s.git.location),
    ("zip_location", .str s.zip.location),
    ("zip_skip_first_level", .bool s.zip.skip),
    ("ready_to_import", .array (s.board.ready.map Template.toJson))]

end ProjectPicker.Session
