/-!
# Errors of files

* `FileError` : why a file cannot be read or a directory cannot be made;
* `FileError.message` : the words for it.
-/

set_option autoImplicit false

namespace ProjectPicker

/-- Why a file cannot be read or a directory cannot be made. -/
inductive FileError where
  | missing
  | alreadyExists
  | notDirectory
  | isDirectory
  | nameTooLong
  | nulInName
  /-- The file is not UTF-8. -/
  | notText
  | system (description : String) (code : Nat)
  deriving DecidableEq, Repr

def FileError.systemMessage (description : String) (code : Nat) : String :=
  description ++ " (os error " ++ toString code ++ ")"

def FileError.message : FileError → String
  | .missing => systemMessage "No such file or directory" 2
  | .alreadyExists => systemMessage "File exists" 17
  | .notDirectory => systemMessage "Not a directory" 20
  | .isDirectory => systemMessage "Is a directory" 21
  | .nameTooLong => systemMessage "File name too long" 36
  | .nulInName => "file name contained an unexpected NUL byte"
  | .notText => "stream did not contain valid UTF-8"
  | .system description code => systemMessage description code

end ProjectPicker
