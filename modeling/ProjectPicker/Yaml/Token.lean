/-!
# Tokens of YAML

* `Token` : the pieces that a YAML text is made of.
-/

set_option autoImplicit false

namespace ProjectPicker.Yaml

/-- The pieces that a YAML text is made of. The prefixes and suffixes of tags are octets. -/
inductive Token where
  | streamStart
  | streamEnd
  | versionDirective (major minor : Nat)
  | tagDirective (handle : List Char) (octets : List UInt8)
  | documentStart
  | documentEnd
  | blockSequenceStart
  | blockMappingStart
  | blockEnd
  | flowSequenceStart
  | flowSequenceEnd
  | flowMappingStart
  | flowMappingEnd
  | blockEntry
  | flowEntry
  | key
  | value
  | alias (name : List Char)
  | anchor (name : List Char)
  | tag (handle : List Char) (suffix : List UInt8)
  | scalar (text : List Char) (plain : Bool)
  deriving DecidableEq, Inhabited

end ProjectPicker.Yaml
