import ProjectPicker.Catalogue.Origin
import ProjectPicker.Catalogue.Reply
import ProjectPicker.DecodeError
import ProjectPicker.Failure
import ProjectPicker.FileError
import ProjectPicker.Form.Yaml
import ProjectPicker.Template.Decoder
import ProjectPicker.Url

/-!
# Catalogues

* `CatalogueError` : why a catalogue cannot be fetched;
* `Catalogue.parse` : the templates in a text, each of which has to have a name;
* `Catalogue.ofFile`, `Catalogue.ofReply` : the templates in a file, and in the reply of a server;
* `Registry` : an origin that was found to be well-formed.
-/

set_option autoImplicit false

namespace ProjectPicker

/-- What is wrong with the text of a catalogue. -/
inductive CatalogueFault where
  | decode (e : DecodeError)
  | unnamed (index : Nat)
  deriving DecidableEq, Repr

def CatalogueFault.message : CatalogueFault → String
  | .decode e => e.message
  | .unnamed index => "template at index " ++ toString index ++ " has no name"

/-- Why a catalogue cannot be fetched. -/
inductive CatalogueError where
  | file (path : String) (e : FileError)
  | text (origin : String) (fault : CatalogueFault)
  | transport
  | status (code : Nat) (body : String)
  | url (typed : String) (e : UrlError)
  /-- There is no catalogue to fetch. -/
  | nothingSupplied
  deriving DecidableEq, Repr

namespace CatalogueError

def message : CatalogueError → String
  | .file path e => "failed to read templates file `" ++ path ++ "`: " ++ e.message
  | .text origin fault => "failed to parse templates from " ++ origin ++ ": " ++ fault.message
  | .transport => "HTTP request failed"
  | .status code body =>
    "template registry returned HTTP " ++ toString code ++ " " ++ Reply.reason code ++ ": " ++ body
  | .url typed e =>
    "configuration error: invalid templates URL `" ++ typed ++ "`: " ++ e.message
  | .nothingSupplied => "configuration error: static registry has no templates"

/-- The failure that an error is. The error of a file is its cause as well. -/
def failure : CatalogueError → Failure
  | .file path e => ⟨(CatalogueError.file path e).message, [e.message]⟩
  | e => ⟨e.message, []⟩

end CatalogueError

namespace Catalogue

/-- The templates in a text, each of which has to have a name that is not blank. -/
def parse (origin text : String) : Except CatalogueError (List Template) :=
  match Yaml.decode Template.decodeList text with
  | .error e => .error (.text origin (.decode e))
  | .ok templates =>
    match templates.findIdx? fun t => Text.isBlankText t.name with
    | some index => .error (.text origin (.unnamed index))
    | none => .ok templates

/-- The text in the octets of a file, if it could be read. -/
def fileText (octets : Except FileError (List UInt8)) : Except FileError String := do
  match Text.decode? (← octets) with
  | some text => return text
  | none => throw .notText

def ofFile (path : String) (octets : Except FileError (List UInt8)) :
    Except CatalogueError (List Template) :=
  match fileText octets with
  | .ok text => parse path text
  | .error e => .error (.file path e)

def ofReply (url : Url) (reply : Reply) : Except CatalogueError (List Template) :=
  match reply.final with
  | .none => .error .transport
  | .answer code octets =>
    let body := Text.decodeLossy octets
    if Reply.isSuccess code then parse url.text body else .error (.status code body)

end Catalogue

/-- An origin that was found to be well-formed. -/
inductive Registry where
  | file (path : String)
  | http (url : Url)
  deriving DecidableEq, Repr

namespace Registry

def ofUrl (typed : String) : Except CatalogueError Registry :=
  match Url.parse typed with
  | .ok url => .ok (.http url)
  | .error e => .error (.url typed e)

def ofOrigin : Origin → Except CatalogueError Registry
  | .file path => .ok (.file path)
  | .http url => ofUrl url

end Registry

end ProjectPicker
