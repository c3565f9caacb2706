import ProjectPicker.Command
import ProjectPicker.Template.Decoder

/-!
# Decoding commands

* `Content.toText`, `Content.toFlag`, `Content.toOptional`, `Content.toSource` : the contents of the
  fields of a command;
* `Command.Action.fieldNames` : the fields of each action, which have numbers too;
* `Command.ofContent` : the command of an action and its fields;
* `Command.decode`, `Script.decode` : commands and scripts in any form.

The action may stand anywhere among the fields, so these are kept as contents until it is known.
Each field comes once, and none that the action does not have.
-/

set_option autoImplicit false

namespace ProjectPicker

namespace Content

def toText : Content → Except DecodeError String
  | .text s => .ok s
  | _ => .error .invalidType

def toFlag : Content → Except DecodeError Bool
  | .bool b => .ok b
  | _ => .error .invalidType

def toOptional : Content → Except DecodeError (Option String)
  | .unit => .ok none
  | c => do
    let s ← c.toText
    return some s

/-- A source by its name, or by its number. -/
def toSourceName : Content → Except DecodeError Source
  | .text s =>
    match Source.ofWord? s with
    | some source => .ok source
    | none => .error (.unknownVariant s)
  | .index n =>
    match Source.all[n]? with
    | some source => .ok source
    | none => .error .invalidValue
  | _ => .error .invalidType

/-- Nothing is attached to a source. -/
def toNothing : Content → Except DecodeError Unit
  | .unit => .ok ()
  | .dictionary [] => .ok ()
  | _ => .error .invalidType

/-- A source: its name, or a dictionary with its name alone. -/
def toSource : Content → Except DecodeError Source
  | .text s => toSourceName (.text s)
  | .dictionary [(name, attached)] => do
    let source ← toSourceName name
    toNothing attached
    return source
  | .dictionary _ => .error .invalidValue
  | _ => .error .invalidType

end Content

namespace Command

def Action.fieldNames : Action → List String
  | .selectStack => ["stack_id"]
  | .setGitLocation => ["location"]
  | .setZipLocation => ["location", "skip_first_level"]
  | .toggleTemplate => ["name", "checked"]
  | .addFromSource => ["source"]
  | .renameProject => ["from", "to"]

/-- The name of a field of an action, which may be given by its number. -/
def Action.fieldName (a : Action) : Content → Except DecodeError String
  | .text s => if a.fieldNames.contains s then .ok s else .error (.unknownField s)
  | .index n =>
    match a.fieldNames[n]? with
    | some s => .ok s
    | none => .error .invalidValue
  | _ => .error .invalidType

/-- The value of a field of a command. -/
inductive Value where
  | text (s : String)
  | flag (b : Bool)
  | optional (s : Option String)
  | source (s : Source)

/-- Reads the value of a field: flags, sources and the stack by name, and texts for the rest. -/
def readValue (name : String) (c : Content) : Except DecodeError Value :=
  match name with
  | "stack_id" => c.toOptional.map .optional
  | "skip_first_level" => c.toFlag.map .flag
  | "checked" => c.toFlag.map .flag
  | "source" => c.toSource.map .source
  | _ => c.toText.map .text

def readEntries (a : Action) (met : List (String × Value)) :
    List (Content × Content) → Except DecodeError (List (String × Value))
  | [] => .ok met
  | (key, value) :: rest => do
    let name ← a.fieldName key
    if met.any (·.1 == name) then throw (.duplicateField name)
    let v ← readValue name value
    readEntries a (met ++ [(name, v)]) rest

def readPositional : List String → List Content → Except DecodeError (List (String × Value))
  | [], [] => .ok []
  | [], _ :: _ => .error .invalidLength
  | "skip_first_level" :: _, [] => .ok []
  | _ :: _, [] => .error .invalidLength
  | name :: names, c :: rest => do
    let v ← readValue name c
    let vs ← readPositional names rest
    return (name, v) :: vs

def textField (met : List (String × Value)) (name : String) : Except DecodeError String :=
  match met.lookup name with
  | some (.text s) => .ok s
  | _ => .error (.missingField name)

def flagField (met : List (String × Value)) (name : String) : Except DecodeError Bool :=
  match met.lookup name with
  | some (.flag b) => .ok b
  | _ => .error (.missingField name)

def sourceField (met : List (String × Value)) (name : String) : Except DecodeError Source :=
  match met.lookup name with
  | some (.source s) => .ok s
  | _ => .error (.missingField name)

/-- The command of an action with these fields. Only the stack and the flag of an archive may be
left out. -/
def ofValues (met : List (String × Value)) : Action → Except DecodeError Command
  | .selectStack =>
    match met.lookup "stack_id" with
    | some (.optional id) => .ok (.selectStack id)
    | _ => .ok (.selectStack none)
  | .setGitLocation => do
    let location ← textField met "location"
    return .setGitLocation location
  | .setZipLocation => do
    let location ← textField met "location"
    match met.lookup "skip_first_level" with
    | some (.flag skip) => return .setZipLocation location skip
    | _ => return .setZipLocation location false
  | .toggleTemplate => do
    let name ← textField met "name"
    let checked ← flagField met "checked"
    return .toggleTemplate name checked
  | .addFromSource => do
    let source ← sourceField met "source"
    return .addFromSource source
  | .renameProject => do
    let old ← textField met "from"
    let new ← textField met "to"
    return .renameProject old new

def ofContent (a : Action) : Content → Except DecodeError Command
  | .dictionary entries => do
    let met ← readEntries a [] entries
    ofValues met a
  | .list values => do
    let met ← readPositional a.fieldNames values
    ofValues met a
  | _ => .error .invalidType

section Decode

variable {ν : Type} {m : Type → Type} [Monad m] [MonadExcept DecodeError m]

def decodeAction (F : Form ν m) (n : ν) : m Action := do
  let word ← F.text n
  match Action.ofWord? word with
  | some a => return a
  | none => throw (.unknownVariant word)

def splitAction (F : Form ν m) (depth : Nat) :
    Option Action × List (Content × Content) → ν × ν → m (Option Action × List (Content × Content))
  | (action, entries), (key, value) => do
    match ← F.content depth key with
    | .text "action" =>
      Form.once "action" action
      let a ← decodeAction F value
      return (some a, entries)
    | key =>
      let c ← F.content depth value
      return (action, entries ++ [(key, c)])

def decodeParts (F : Form ν m) (depth : Nat) (n : ν) : m (Action × Content) := do
  match ← F.tagged n with
  | .named entries =>
    let (action, entries) ← entries.foldlM (splitAction F depth) (none, [])
    let a ← Form.required "action" action
    return (a, .dictionary entries)
  | .positional [] => throw (.missingField "action")
  | .positional (first :: rest) =>
    let a ← decodeAction F first
    let values ← rest.mapM (F.content depth)
    return (a, .list values)

/-- A command whose values have `depth` levels at most. -/
def decodeWithin (F : Form ν m) (depth : Nat) (n : ν) : m Command := do
  let (a, c) ← decodeParts F depth n
  match ofContent a c with
  | .ok command => return command
  | .error e => throw e

def decode (F : Form ν m) (n : ν) : m Command := decodeWithin F (F.maxDepth - 1) n

end Decode

end Command

namespace Script

variable {ν : Type} {m : Type → Type} [Monad m] [MonadExcept DecodeError m]

/-- Commands, two levels below the script. -/
def decodeCommands (F : Form ν m) (n : ν) : m (List Command) :=
  F.list (Command.decodeWithin F (F.maxDepth - 3)) n

def meet (F : Form ν m) (met : Option (List Command)) : ν × ν → m (Option (List Command))
  | (key, value) => do
    match ← F.fieldName key with
    | "commands" =>
      Form.once "commands" met
      let commands ← decodeCommands F value
      return some commands
    | _ =>
      F.skip value
      return met

/-- A script. Its commands may be left out, and other fields are passed over. -/
def decode (F : Form ν m) (n : ν) : m Script := do
  match ← F.fields n with
  | .named entries =>
    let met ← entries.foldlM (meet F) none
    return ⟨met.getD []⟩
  | .positional values =>
    let (commands, rest) ← Form.nextOr [] (decodeCommands F) values
    Form.done rest
    return ⟨commands⟩

end Script

end ProjectPicker
