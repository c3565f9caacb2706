import ProjectPicker.Template
import ProjectPicker.Text.Blank

/-!
# Locations

* `Location.projectName?` : the project that a repository or archive location names;
* `Location.refersTo` : whether a location names a given project;
* `Location.gitTemplate?`, `Location.zipTemplate?` : the templates of such projects.
-/

set_option autoImplicit false

namespace ProjectPicker.Location

def isSeparator (c : Char) : Bool := c == '/' || c == ':'

/-- A location without the blanks around it and the slashes at its end. -/
def normalize (location : List Char) : List Char :=
  Text.dropTrailing (· == '/') (Text.trimChars location)

/-- What follows the last separator. -/
def lastSegment (path : List Char) : List Char :=
  (path.reverse.takeWhile fun c => !isSeparator c).reverse

def dropEnding? (text extension : List Char) : Option (List Char) :=
  (extension.reverse.isPrefixOf? text.reverse).map List.reverse

/-- The project name in the characters of a location: the last of at least two segments, without
the extension, which it must have. -/
def projectNameChars? (location extension : List Char) : Option (List Char) :=
  let path := normalize location
  if path.any isSeparator then
    match dropEnding? (lastSegment path) extension with
    | some [] => none
    | name? => name?
  else none

/-- The project that a location names, if it names one. -/
def projectName? (location extension : String) : Option String :=
  (projectNameChars? location.toList extension.toList).map String.ofList

/-- Whether a location names the project `name`. Blanks around the name do not count, and a name
that is blank or holds a separator is never meant. -/
def refersTo (location name extension : String) : Bool :=
  let name := Text.trim name
  !name.isEmpty && !name.toList.any isSeparator && projectName? location extension == some name

def gitExtension : String := ".git"

def zipExtension : String := ".zip"

/-- The parameter that tells an importer to leave out the root folder of an archive. -/
def skipFirstLevel : String := "skipFirstLevel"

/-- A template without a type, named for its location. -/
def template (name kind location : String) (parameters : Parameters) : Template :=
  { name
    displayName := name
    path := "/" ++ name
    projectType := "blank"
    category := kind
    source := some { kind, location := Text.trim location, parameters } }

def gitTemplate? (location : String) : Option Template :=
  (projectName? location gitExtension).map fun name => template name "git" location .empty

def zipTemplate? (location : String) (skip : Bool) : Option Template :=
  (projectName? location zipExtension).map fun name =>
    template name "zip" location
      (if skip then Parameters.empty.insert skipFirstLevel "true" else .empty)

end ProjectPicker.Location
