import ProjectPicker.Environment
import ProjectPicker.Text.Split
import ProjectPicker.Text.Utf8

/-!
# Environments as the system keeps them

* `Environment.ofBlock` : the environment in octets that hold `NAME=value` between zeros.
-/

set_option autoImplicit false

namespace ProjectPicker

/-- A variable in octets: its name ends at the first equals sign, which is not their first. A name
that is no text cannot be asked for. -/
def Environment.entry? : List UInt8 → Option (String × Option String)
  | [] => none
  | first :: rest => do
    let name ← Text.decode? (first :: rest.takeWhile (· != 61))
    match rest.dropWhile (· != 61) with
    | [] => none
    | _ :: value => return (name, Text.decode? value)

def Environment.ofBlock (octets : List UInt8) : Environment :=
  ⟨(Text.splitOn 0 octets).filterMap entry?⟩

end ProjectPicker
