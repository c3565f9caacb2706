import ProjectPicker.Form
import ProjectPicker.Source
import ProjectPicker.Stack

/-!
# Decoding templates and stacks

* `Parameters.decode`, `SourceLocation.decode`, `Template.decode`, `Stack.decode` : the records of a
  catalogue, in any form;
* `Template.decodeList`, `Stack.decodeList` : whole catalogues.

Fields may come in any order, each once; a field that is not known is passed over. Only the name of
a template, the id of a stack, and the type and location of a source have to be there.
-/

set_option autoImplicit false

namespace ProjectPicker

variable {ν : Type} {m : Type → Type} [Monad m] [MonadExcept DecodeError m]

/-- The parameters of a source; of two with one name the later counts. -/
def Parameters.decode (F : Form ν m) (n : ν) : m Parameters := do
  let entries ← F.entries n
  entries.foldlM (fun p (key, value) => do
    let name ← F.fieldName key
    let text ← F.text value
    return p.insert name text) .empty

namespace SourceLocation

/-- The fields of a source met so far. -/
structure Met where
  kind : Option String := none
  location : Option String := none
  parameters : Option Parameters := none

def meet (F : Form ν m) (met : Met) : ν × ν → m Met
  | (key, value) => do
    match ← F.fieldName key with
    | "type" =>
      Form.once "type" met.kind
      let kind ← F.text value
      return { met with kind := some kind }
    | "location" =>
      Form.once "location" met.location
      let location ← F.text value
      return { met with location := some location }
    | "parameters" =>
      Form.once "parameters" met.parameters
      let parameters ← Parameters.decode F value
      return { met with parameters := some parameters }
    | _ =>
      F.skip value
      return met

def ofMet (met : Met) : m SourceLocation := do
  let kind ← Form.required "type" met.kind
  let location ← Form.required "location" met.location
  return { kind, location, parameters := met.parameters.getD .empty }

/-- The source whose fields come in order. -/
def decodePositional (F : Form ν m) (values : List ν) : m SourceLocation := do
  let (kind, rest) ← Form.next F.text values
  let (location, rest) ← Form.next F.text rest
  let (parameters, rest) ← Form.nextOr .empty (Parameters.decode F) rest
  Form.done rest
  return { kind, location, parameters }

def decode (F : Form ν m) (n : ν) : m SourceLocation := do
  match ← F.fields n with
  | .named entries => ofMet (← entries.foldlM (meet F) {})
  | .positional values => decodePositional F values

def decodeOptional (F : Form ν m) (n : ν) : m (Option SourceLocation) := do
  match ← F.optional n with
  | none => return none
  | some n => return some (← decode F n)

end SourceLocation

namespace Template

/-- The fields of a template met so far. -/
structure Met where
  name : Option String := none
  displayName : Option String := none
  description : Option String := none
  projectType : Option String := none
  category : Option String := none
  tags : Option (List String) := none
  path : Option String := none
  source : Option (Option SourceLocation) := none

def meet (F : Form ν m) (met : Met) : ν × ν → m Met
  | (key, value) => do
    match ← F.fieldName key with
    | "name" =>
      Form.once "name" met.name
      let name ← F.text value
      return { met with name := some name }
    | "displayName" =>
      Form.once "displayName" met.displayName
      let displayName ← F.text value
      return { met with displayName := some displayName }
    | "description" =>
      Form.once "description" met.description
      let description ← F.text value
      return { met with description := some description }
    | "projectType" =>
      Form.once "projectType" met.projectType
      let projectType ← F.text value
      return { met with projectType := some projectType }
    | "category" =>
      Form.once "category" met.category
      let category ← F.text value
      return { met with category := some category }
    | "tags" =>
      Form.once "tags" met.tags
      let tags ← F.texts value
      return { met with tags := some tags }
    | "path" =>
      Form.once "path" met.path
      let path ← F.text value
      return { met with path := some path }
    | "source" =>
      Form.once "source" met.source
      let source ← SourceLocation.decodeOptional F value
      return { met with source := some source }
    | _ =>
      F.skip value
      return met

def ofMet (met : Met) : m Template := do
  let name ← Form.required "name" met.name
  return {
    name
    displayName := met.displayName.getD ""
    description := met.description.getD ""
    projectType := met.projectType.getD ""
    category := met.category.getD ""
    tags := met.tags.getD []
    path := met.path.getD ""
    source := met.source.getD none }

def decodePositional (F : Form ν m) (values : List ν) : m Template := do
  let (name, rest) ← Form.next F.text values
  let (displayName, rest) ← Form.nextOr "" F.text rest
  let (description, rest) ← Form.nextOr "" F.text rest
  let (projectType, rest) ← Form.nextOr "" F.text rest
  let (category, rest) ← Form.nextOr "" F.text rest
  let (tags, rest) ← Form.nextOr [] F.texts rest
  let (path, rest) ← Form.nextOr "" F.text rest
  let (source, rest) ← Form.nextOr none (SourceLocation.decodeOptional F) rest
  Form.done rest
  return { name, displayName, description, projectType, category, tags, path, source }

def decode (F : Form ν m) (n : ν) : m Template := do
  match ← F.fields n with
  | .named entries => ofMet (← entries.foldlM (meet F) {})
  | .positional values => decodePositional F values

def decodeList (F : Form ν m) (n : ν) : m (List Template) := F.list (decode F) n

end Template

namespace Stack

/-- The fields of a stack met so far. -/
structure Met where
  id : Option String := none
  name : Option String := none
  tags : Option (List String) := none

def meet (F : Form ν m) (met : Met) : ν × ν → m Met
  | (key, value) => do
    match ← F.fieldName key with
    | "id" =>
      Form.once "id" met.id
      let id ← F.text value
      return { met with id := some id }
    | "name" =>
      Form.once "name" met.name
      let name ← F.text value
      return { met with name := some name }
    | "tags" =>
      Form.once "tags" met.tags
      let tags ← F.texts value
      return { met with tags := some tags }
    | _ =>
      F.skip value
      return met

def ofMet (met : Met) : m Stack := do
  let id ← Form.required "id" met.id
  return { id, name := met.name.getD "", tags := met.tags.getD [] }

def decodePositional (F : Form ν m) (values : List ν) : m Stack := do
  let (id, rest) ← Form.next F.text values
  let (name, rest) ← Form.nextOr "" F.text rest
  let (tags, rest) ← Form.nextOr [] F.texts rest
  Form.done rest
  return { id, name, tags }

def decode (F : Form ν m) (n : ν) : m Stack := do
  match ← F.fields n with
  | .named entries => ofMet (← entries.foldlM (meet F) {})
  | .positional values => decodePositional F values

def decodeList (F : Form ν m) (n : ν) : m (List Stack) := F.list (decode F) n

end Stack

def Source.decode (F : Form ν m) (n : ν) : m Source := do
  let (word, nothingAttached) ← F.word n
  match Source.ofWord? word with
  | some source =>
    nothingAttached
    return source
  | none => throw (.unknownVariant word)

end ProjectPicker
