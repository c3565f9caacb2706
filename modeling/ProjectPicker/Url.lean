import ProjectPicker.Url.Host

/-!
# URLs

* `Url` : a URL in its parts;
* `Url.parse` : reads a URL that stands by itself, as browsers do;
* `Url.text` : the URL in its normal form.

Blanks and controls around a URL, and tabs and line breaks inside it, do not count. URLs of the
special schemes have a host and a hierarchical path, in which `\` is another slash.
-/

set_option autoImplicit false

namespace ProjectPicker

/-- A URL in its parts, each escaped as it is written. -/
structure Url where
  scheme : String
  /-- What stands before the host, with its `@`. -/
  userinfo : String := ""
  host : Option Host := none
  /-- The number after the host, if it is not the one that the scheme stands for. -/
  tcpPort : Option Nat := none
  path : String := ""
  query : Option String := none
  fragment : Option String := none
  deriving DecidableEq, Repr

namespace Url

/-! ## Schemes -/

/-- The number after the host that a scheme stands for. -/
def defaultPort? (scheme : String) : Option Nat :=
  match scheme with
  | "http" => some 80
  | "ws" => some 80
  | "https" => some 443
  | "wss" => some 443
  | "ftp" => some 21
  | _ => none

/-- The schemes whose URLs have a host and a hierarchical path. -/
def isSpecial (scheme : String) : Bool := scheme == "file" || (defaultPort? scheme).isSome

def isSchemeChar (c : Char) : Bool := c.isAlphanum || c == '+' || c == '-' || c == '.'

def splitScheme? (cs : List Char) : Option (String × List Char) :=
  let scheme := cs.takeWhile isSchemeChar
  match cs.head?, cs.drop scheme.length with
  | some first, ':' :: rest =>
    if first.isAlpha then some (String.ofList (scheme.map Char.toLower), rest) else none
  | _, _ => none

/-! ## Escapes -/

def percentChar (c : Char) : List Char :=
  c.toString.toUTF8.toList.flatMap fun o =>
    ['%', (Nat.digitChar (o.toNat / 16)).toUpper, (Nat.digitChar (o.toNat % 16)).toUpper]

/-- Escapes controls, what is not ASCII, and these characters. -/
def escape (these : List Char) (cs : List Char) : List Char :=
  cs.flatMap fun c =>
    if c.toNat < 0x20 || 0x7F ≤ c.toNat || these.contains c then percentChar c else [c]

def fragmentEscapes : List Char := [' ', '\x22', '<', '>', '\x60']
def pathEscapes : List Char := fragmentEscapes ++ ['#', '?', '\x7b', '\x7d']
def userEscapes : List Char :=
  pathEscapes ++ ['/', ':', ';', '=', '@', '[', '\\', ']', '^', '|']
def queryEscapes : List Char := [' ', '\x22', '#', '<', '>']

def specialQueryEscapes : List Char := queryEscapes ++ ['\x27']

/-! ## The authority -/

def endsAuthority (special : Bool) (c : Char) : Bool :=
  c == '/' || c == '?' || c == '#' || (special && c == '\\')

/-- The name and the password before the last `@`, as they are written. -/
def userinfoText (cs : List Char) : String :=
  let name := cs.takeWhile (· != ':')
  let password := cs.drop (name.length + 1)
  let written := escape userEscapes name ++
    if password.isEmpty then [] else ':' :: escape userEscapes password
  if written.isEmpty then "" else String.ofList (written ++ ['@'])

def splitUserinfo (cs : List Char) : Option (List Char) × List Char :=
  match cs.reverse.dropWhile (· != '@') with
  | _ :: before => (some before.reverse, (cs.reverse.takeWhile (· != '@')).reverse)
  | [] => (none, cs)

/-- The host itself: what stands before the first colon that is not between brackets. -/
def hostPart (bracketed : Bool) : List Char → List Char
  | [] => []
  | c :: rest =>
    if c == ':' && !bracketed then []
    else c :: hostPart (if c == '[' then true else if c == ']' then false else bracketed) rest

def parsePort (scheme : String) (cs : List Char) : Except UrlError (Option Nat) :=
  let number := cs.foldl (fun n c => n * 10 + (c.toNat - '0'.toNat)) 0
  if cs.any (!·.isDigit) || 65535 < number then .error .invalidPort
  else if cs.isEmpty || defaultPort? scheme == some number then .ok none
  else .ok (some number)

def parseHost (scheme : String) (cs : List Char) : Except UrlError (Host × Option Nat) := do
  let name := hostPart false cs
  let after := cs.drop name.length
  let special := isSpecial scheme
  if special && name.isEmpty then throw .emptyHost
  let host ← if special then Host.parse name else Host.parseRaw name
  match after with
  | [] => return (host, none)
  | _ :: digits =>
    if name.isEmpty then throw .emptyHost
    return (host, ← parsePort scheme digits)

/-! ## The path -/

def isSingleDot (segment : String) : Bool := [".", "%2e"].contains segment.toLower

def isDoubleDot (segment : String) : Bool :=
  ["..", ".%2e", "%2e.", "%2e%2e"].contains segment.toLower

/-- Takes dots out of a path: a single one stands for nothing, and two of them for the segment
before. The last segment stays, if only as an empty one. -/
def withoutDots (before : List String) : List String → List String
  | [] => before
  | [last] =>
    if isDoubleDot last then before.dropLast ++ [""]
    else if isSingleDot last then before ++ [""]
    else before ++ [last]
  | segment :: rest =>
    if isDoubleDot segment then withoutDots before.dropLast rest
    else if isSingleDot segment then withoutDots before rest
    else withoutDots (before ++ [segment]) rest

def pathText (special : Bool) (cs : List Char) : String :=
  let cs := if special then cs.map fun c => if c == '\\' then '/' else c else cs
  let segments := (Text.splitOn '/' cs).map fun s => String.ofList (escape pathEscapes s)
  "/" ++ "/".intercalate (withoutDots [] segments)

def dropSlash (special : Bool) : List Char → List Char
  | c :: rest => if c == '/' || (special && c == '\\') then rest else c :: rest
  | [] => []

/-! ## URLs -/

def splitPath (cs : List Char) : List Char × Option (List Char) × Option (List Char) :=
  let beforeFragment := cs.takeWhile (· != '#')
  let fragment := (cs.drop beforeFragment.length).tail?
  let path := beforeFragment.takeWhile (· != '?')
  (path, (beforeFragment.drop path.length).tail?, fragment)

def withQuery (u : Url) (query fragment : Option (List Char)) : Url :=
  let escapes := if isSpecial u.scheme then specialQueryEscapes else queryEscapes
  { u with
    query := query.map fun cs => String.ofList (escape escapes cs)
    fragment := fragment.map fun cs => String.ofList (escape fragmentEscapes cs) }

/-- The path after an authority. Only a URL of a special scheme has one in any case. -/
def pathAfterHost (special : Bool) (cs : List Char) : String :=
  if cs.isEmpty && !special then "" else pathText special (dropSlash special cs)

def parseAuthority (scheme : String) (cs : List Char) : Except UrlError Url := do
  let special := isSpecial scheme
  let authority := cs.takeWhile (!endsAuthority special ·)
  let (path, query, fragment) := splitPath (cs.drop authority.length)
  let (userinfo, host) := splitUserinfo authority
  if userinfo == some [] && host.isEmpty && authority.length < cs.length then throw .emptyHost
  let (host, tcpPort) ← parseHost scheme host
  let userinfo := userinfoText (userinfo.getD [])
  if host == .raw [] && !userinfo.isEmpty then throw .emptyHost
  return withQuery { scheme, userinfo, host, tcpPort, path := pathAfterHost special path }
    query fragment

/-- Whether a host is a drive letter, which belongs to the path of a file. -/
def isDriveLetter : List Char → Bool
  | [letter, mark] => letter.isAlpha && (mark == ':' || mark == '|')
  | _ => false

def parseFile (cs : List Char) : Except UrlError Url := do
  let isSlash (c : Option Char) : Bool := c == some '/' || c == some '\\'
  if isSlash cs.head? && isSlash cs.tail.head? then
    let rest := cs.drop 2
    let name := rest.takeWhile (!endsAuthority true ·)
    if isDriveLetter name then
      let (path, query, fragment) := splitPath rest
      return withQuery { scheme := "file", path := pathText true path } query fragment
    else
      let (path, query, fragment) := splitPath (rest.drop name.length)
      let host ← if name.isEmpty then pure none else (Host.parse name).map some
      let host := if host == some (.domain "localhost".toList) then none else host
      return withQuery { scheme := "file", host, path := pathAfterHost true path } query fragment
  else
    let (path, query, fragment) := splitPath cs
    return withQuery { scheme := "file", path := pathAfterHost true path } query fragment

/-- Reads a URL of a scheme that is not special. Without a slash its path is not hierarchical. -/
def parseOther (scheme : String) : List Char → Except UrlError Url
  | '/' :: '/' :: rest => parseAuthority scheme rest
  | cs =>
    let (path, query, fragment) := splitPath cs
    let path := match path with
      | '/' :: rest => pathText false rest
      | path => String.ofList (escape [] path)
    .ok (withQuery { scheme, path } query fragment)

def isOuterBlank (c : Char) : Bool := c.toNat ≤ 0x20

def isInnerBlank (c : Char) : Bool := c == '\t' || c == '\n' || c == '\r'

def parse (text : String) : Except UrlError Url :=
  let trimmed := ((text.toList.dropWhile isOuterBlank).reverse.dropWhile isOuterBlank).reverse
  match splitScheme? (trimmed.filter (!isInnerBlank ·)) with
  | none => .error .noBase
  | some ("file", rest) => parseFile rest
  | some (scheme, rest) =>
    if isSpecial scheme then
      parseAuthority scheme (rest.dropWhile fun c => c == '/' || c == '\\')
    else parseOther scheme rest

def text (u : Url) : String :=
  let authority := match u.host with
    | some host =>
      "//" ++ u.userinfo ++ host.text ++ (u.tcpPort.map fun p => ":" ++ toString p).getD ""
    | none => if u.scheme == "file" then "//" else ""
  u.scheme ++ ":" ++ authority ++ u.path ++ (u.query.map ("?" ++ ·)).getD "" ++
    (u.fragment.map ("#" ++ ·)).getD ""

end Url

end ProjectPicker
