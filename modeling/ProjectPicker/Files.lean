import ProjectPicker.FileError
import ProjectPicker.Text.Split

/-!
# Files

* `Entry` : a directory, or a file with its octets;
* `Files` : what stands in the working directory, by path;
* `Files.locate` : where a path leads;
* `Files.read` : the octets of a file;
* `Files.makeDirectories` : the files with a directory, and those around it, made.

Nothing is known of what stands outside the working directory, apart from the directories above
it.
-/

set_option autoImplicit false

namespace ProjectPicker

/-- A directory, or a file with its octets. -/
inductive Entry where
  | directory
  | file (octets : List UInt8)
  deriving DecidableEq, Repr

/-- What stands in the working directory, by the names on the way to it. -/
structure Files where
  entries : List (List String × Entry) := []

namespace Files

def find? (f : Files) (names : List String) : Option Entry :=
  if names.isEmpty then some .directory else f.entries.lookup names

def put (f : Files) (names : List String) (e : Entry) : Files :=
  if (f.find? names).isSome then f else ⟨f.entries ++ [(names, e)]⟩

/-- The files with an entry and the directories on the way to it. -/
def insert (f : Files) (names : List String) (e : Entry) : Files :=
  ((List.range names.length).foldl (fun f n => f.put (names.take n) .directory) f).put names e

/-- A place that a path leads to: inside the working directory, or a directory above it. -/
inductive Place where
  | inside (names : List String)
  | above

def at? (f : Files) : Place → Option Entry
  | .inside names => f.find? names
  | .above => some .directory

def maxName : Nat := 255

def maxPath : Nat := 4095

def step (f : Files) (place : Place) (name : String) : Except FileError Place :=
  match f.at? place, place with
  | none, _ => .error .missing
  | some (.file _), _ => .error .notDirectory
  | some .directory, .above =>
    if name == "" || name == "." || name == ".." then .ok .above
    else if maxName < name.utf8ByteSize then .error .nameTooLong
    else .error .missing
  | some .directory, .inside names =>
    if name == "" || name == "." then .ok place
    else if name == ".." then .ok (if names.isEmpty then .above else .inside names.dropLast)
    else if maxName < name.utf8ByteSize then .error .nameTooLong
    else .ok (.inside (names ++ [name]))

/-- Where a path leads, whether or not something stands there. -/
def locate (f : Files) (path : String) : Except FileError Place :=
  if path.toList.contains '\x00' then .error .nulInName
  else if path.isEmpty then .error .missing
  else if maxPath < path.utf8ByteSize then .error .nameTooLong
  else
    let names := (Text.splitOn '/' path.toList).map String.ofList
    let start := if path.toList.head? == some '/' then Place.above else .inside []
    names.foldlM f.step start

def read (f : Files) (path : String) : Except FileError (List UInt8) := do
  let place ← f.locate path
  match f.at? place with
  | some (.file octets) => return octets
  | some .directory => throw .isDirectory
  | none => throw .missing

/-- Whether only dots follow: a directory cannot be made under its name and a dot. -/
def endsInDot (names : List String) : Bool :=
  names.contains "." && names.all fun n => n == "" || n == "."

def makeAlong (start : Files × Place) : List String → Except FileError (Files × Place)
  | [] => .ok start
  | name :: rest =>
    match start with
    | (f, .above) =>
      if name == "" || name == "." || name == ".." then makeAlong (f, .above) rest else .ok start
    | (f, place) => do
      match ← f.step place name with
      | .above => makeAlong (f, .above) rest
      | .inside names =>
        match f.find? names with
        | some (.file _) =>
          throw (if rest.any (· != "") then .notDirectory else .alreadyExists)
        | some .directory => makeAlong (f, .inside names) rest
        | none =>
          if endsInDot rest then throw .missing
          makeAlong (f.put names .directory, .inside names) rest

def makeDirectories (f : Files) (path : String) : Except FileError Files :=
  if path.toList.contains '\x00' then .error .nulInName
  else if path.isEmpty then .ok f
  else if maxPath < path.utf8ByteSize then .error .nameTooLong
  else do
    let names := (Text.splitOn '/' path.toList).map String.ofList
    let start := if path.toList.head? == some '/' then Place.above else .inside []
    let (f, _) ← makeAlong (f, start) names
    return f

end Files

end ProjectPicker
