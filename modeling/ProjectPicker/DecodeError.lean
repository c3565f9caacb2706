/-!
# Decoding errors

* `DecodeError` : why a text does not hold a value of the type wanted;
* `DecodeError.message` : the words for it.
-/

set_option autoImplicit false

namespace ProjectPicker

/-- Why a text does not hold a value of the type wanted. -/
inductive DecodeError where
  | missingField (name : String)
  | unknownField (name : String)
  | duplicateField (name : String)
  | unknownVariant (name : String)
  | invalidType
  | invalidLength
  | invalidValue
  /-- The text is not of its format, or nested too deeply. -/
  | malformed
  deriving DecidableEq, Repr

def DecodeError.message : DecodeError → String
  | .missingField name => "missing field `" ++ name ++ "`"
  | .unknownField name => "unknown field `" ++ name ++ "`"
  | .duplicateField name => "duplicate field `" ++ name ++ "`"
  | .unknownVariant name => "unknown variant `" ++ name ++ "`"
  | .invalidType => "invalid type"
  | .invalidLength => "invalid length"
  | .invalidValue => "invalid value"
  | .malformed => "syntax"

end ProjectPicker
