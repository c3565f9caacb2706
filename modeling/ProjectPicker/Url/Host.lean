import ProjectPicker.Text.Digit
import ProjectPicker.Text.LowerCase
import ProjectPicker.Text.Quoted.Invisible
import ProjectPicker.Text.Split
import ProjectPicker.Text.Utf8

/-!
# Hosts of URLs

* `UrlError` : why a text is no URL;
* `Host` : a domain, an address of either kind, or an uninterpreted name;
* `Host.parse`, `Host.parseRaw` : the host of a URL of a special scheme, and of any other;
* `Host.text` : how a host is written in a URL.

A domain whose last label looks like a number is an IPv4 address, or an error.
-/

set_option autoImplicit false

namespace ProjectPicker

/-- Why a text is no URL. -/
inductive UrlError where
  | emptyHost
  | invalidDomain
  | invalidPort
  | invalidIpv4
  | invalidIpv6
  | invalidDomainCharacter
  | noBase
  deriving DecidableEq, Repr

def UrlError.message : UrlError → String
  | .emptyHost => "empty host"
  | .invalidDomain => "invalid international domain name"
  | .invalidPort => "invalid port number"
  | .invalidIpv4 => "invalid IPv4 address"
  | .invalidIpv6 => "invalid IPv6 address"
  | .invalidDomainCharacter => "invalid domain character"
  | .noBase => "relative URL without a base"

/-- A host. The pieces of an IPv6 address have sixteen bits each. -/
inductive Host where
  | domain (name : List Char)
  | ipv4 (address : Nat)
  | ipv6 (pieces : List Nat)
  | raw (name : List Char)
  deriving DecidableEq, Repr

namespace Host

/-! ## IPv4 -/

/-- A number in an address: hexadecimal after `0x`, octal after `0`, or decimal. -/
def ipv4Number? : List Char → Option Nat
  | [] => none
  | '0' :: 'x' :: digits => Text.digitsValue? 16 digits
  | '0' :: 'X' :: digits => Text.digitsValue? 16 digits
  | '0' :: d :: digits => Text.digitsValue? 8 (d :: digits)
  | digits => Text.digitsValue? 10 digits

def ipv4Parts (domain : List Char) : List (List Char) :=
  let parts := Text.splitOn '.' domain
  if parts.getLast? == some [] then parts.dropLast else parts

def endsInNumber (domain : List Char) : Bool :=
  match (ipv4Parts domain).getLast? with
  | some part => (!part.isEmpty && part.all Char.isDigit) || (ipv4Number? part).isSome
  | none => false

/-- The address of numbers: each but the last is one octet, and the last fills what is left. -/
def ipv4OfNumbers? : List Nat → Option Nat
  | [] => none
  | numbers =>
    let last := numbers.getLast?.getD 0
    let octets := numbers.dropLast
    let room := Nat.pow 256 (4 - octets.length)
    if 3 < octets.length || octets.any (255 < ·) || room ≤ last then none
    else some (octets.foldl (fun n x => n * 256 + x) 0 * room + last)

def parseIpv4 (domain : List Char) : Except UrlError Host :=
  match (ipv4Parts domain).mapM ipv4Number? >>= ipv4OfNumbers? with
  | some address => .ok (.ipv4 address)
  | none => .error .invalidIpv4

/-! ## IPv6 -/

/-- A decimal number of one octet, without a leading zero. -/
def octet? (cs : List Char) : Option Nat :=
  if cs.isEmpty || !cs.all Char.isDigit || (1 < cs.length && cs.head? == some '0') then none
  else (Text.digitsValue? 10 cs).filter (· < 256)

def ipv4Pieces? (cs : List Char) : Option (Nat × Nat) :=
  match Text.splitOn '.' cs with
  | [a, b, c, d] => do
    let a ← octet? a
    let b ← octet? b
    let c ← octet? c
    let d ← octet? d
    return (a * 256 + b, c * 256 + d)
  | _ => none

/-- Reads the pieces of an address. `pieces` are those before, the last first, with one for `::`;
`gap` is how many there are up to that one. -/
def readPieces : Nat → List Nat → Option Nat → List Char → Option (List Nat × Option Nat)
  | 0, _, _, _ => none
  | _ + 1, pieces, gap, [] => some (pieces.reverse, gap)
  | fuel + 1, pieces, gap, c :: rest =>
    if 8 ≤ pieces.length then none
    else if c == ':' then
      if gap.isSome then none else readPieces fuel (0 :: pieces) (some (pieces.length + 1)) rest
    else
      let digits := ((c :: rest).take 4).takeWhile fun x => (Text.hexValue? x).isSome
      let value := (Text.digitsValue? 16 digits).getD 0
      match (c :: rest).drop digits.length with
      | [] => readPieces fuel (value :: pieces) gap []
      | ':' :: [] => none
      | ':' :: more => readPieces fuel (value :: pieces) gap more
      | '.' :: _ =>
        if digits.isEmpty || 6 < pieces.length then none
        else do
          let (high, low) ← ipv4Pieces? (c :: rest)
          return ((low :: high :: pieces).reverse, gap)
      | _ => none

/-- The eight pieces of an address, where `::` stands for as many zeros as are missing. -/
def ipv6Pieces? (cs : List Char) : Option (List Nat) := do
  let (pieces, gap) ← match cs with
    | ':' :: ':' :: rest => readPieces (rest.length + 1) [0] (some 1) rest
    | ':' :: _ => none
    | cs => readPieces (cs.length + 1) [] none cs
  match gap with
  | some n => return pieces.take n ++ List.replicate (8 - pieces.length) 0 ++ pieces.drop n
  | none => if pieces.length == 8 then return pieces else none

def parseBracketed (cs : List Char) : Except UrlError Host :=
  if cs.getLast? == some ']' then
    match ipv6Pieces? cs.tail.dropLast with
    | some pieces => .ok (.ipv6 pieces)
    | none => .error .invalidIpv6
  else .error .invalidIpv6

/-! ## Domains -/

def percentDecode : List UInt8 → List UInt8
  | [] => []
  | o :: a :: b :: rest =>
    match o == 37, Text.hexValue? (Char.ofNat a.toNat), Text.hexValue? (Char.ofNat b.toNat) with
    | true, some high, some low => UInt8.ofNat (high * 16 + low) :: percentDecode rest
    | _, _, _ => o :: percentDecode (a :: b :: rest)
  | o :: rest => o :: percentDecode rest

def isForbidden (c : Char) : Bool :=
  c == '\x00' || c == '\t' || c == '\n' || c == '\r' || c == ' ' || c == '#' || c == '/' ||
    c == ':' || c == '<' || c == '>' || c == '?' || c == '@' || c == '[' || c == '\\' ||
    c == ']' || c == '^' || c == '|'

/-- The characters that no domain may hold: controls and `%` besides. -/
def isForbiddenInDomain (c : Char) : Bool :=
  isForbidden c || c.toNat < 0x20 || c.toNat == 0x7F || c == '%'

/-- The characters that a domain may hold and that do not count. -/
def isIgnored (c : Char) : Bool :=
  let n := c.toNat
  n == 0xAD || n == 0x34F || (0x180B ≤ n && n ≤ 0x180D) || n == 0x180F || n == 0x200B ||
    n == 0x2060 || n == 0x2064 || (0xFE00 ≤ n && n ≤ 0xFE0F) || n == 0xFEFF

/-- The character that stands for another in a domain: lower case, narrow forms for wide ones, and
a full stop for the ideographic ones. -/
def mapChar (c : Char) : Char :=
  let n := c.toNat
  if n == 0x3002 || n == 0xFF61 then '.'
  else if 0xFF01 ≤ n && n ≤ 0xFF5E then Text.lowerChar (Char.ofNat (n - 0xFEE0))
  else Text.lowerChar c

def isEmptyEncoded (label : List Char) : Bool := label == ['x', 'n', '-', '-']

def parseDomain (cs : List Char) : Except UrlError (List Char) :=
  let mapped := (cs.filter (!isIgnored ·)).map mapChar
  if mapped.any (fun c => isForbiddenInDomain c || (0x80 ≤ c.toNat && Text.isUnprintable c)) ||
      (Text.splitOn '.' mapped).any isEmptyEncoded then .error .invalidDomain
  else .ok mapped

/-! ## Hosts -/

def parse (cs : List Char) : Except UrlError Host :=
  if cs.head? == some '[' then parseBracketed cs
  else match Text.decode? (percentDecode (String.ofList cs).toUTF8.toList) with
    | none => .error .invalidDomain
    | some text => do
      let domain ← parseDomain text.toList
      if domain.isEmpty then .error .emptyHost
      else if endsInNumber domain then parseIpv4 domain
      else .ok (.domain domain)

def parseRaw (cs : List Char) : Except UrlError Host :=
  if cs.head? == some '[' then parseBracketed cs
  else if cs.any isForbidden then .error .invalidDomainCharacter
  else .ok (.raw cs)

/-! ## Writing -/

def zeroRun (pieces : List Nat) : Nat := (pieces.takeWhile (· == 0)).length

def longestZeroRun : List Nat → Nat
  | [] => 0
  | p :: rest => max (zeroRun (p :: rest)) (longestZeroRun rest)

def piecesText (pieces : List Nat) : String :=
  ":".intercalate (pieces.map fun p => String.ofList (Nat.toDigits 16 p))

def zeroRunIndex (length : Nat) : List Nat → Nat
  | [] => 0
  | p :: rest => if zeroRun (p :: rest) == length then 0 else zeroRunIndex length rest + 1

/-- The text of an IPv6 address, where `::` stands for the first of its longest runs of zeros. -/
def ipv6Text (pieces : List Nat) : String :=
  let length := longestZeroRun pieces
  if length < 2 then piecesText pieces
  else
    let i := zeroRunIndex length pieces
    piecesText (pieces.take i) ++ "::" ++ piecesText (pieces.drop (i + length))

def text : Host → String
  | .domain name => String.ofList name
  | .ipv4 n =>
    ".".intercalate [toString (n / 0x1000000), toString (n / 0x10000 % 256),
      toString (n / 0x100 % 256), toString (n % 256)]
  | .ipv6 pieces => "[" ++ ipv6Text pieces ++ "]"
  | .raw name => String.ofList name

end Host

end ProjectPicker
