import ProjectPicker.Text.Alphanumeric
import ProjectPicker.Text.Blank
import ProjectPicker.Text.Count
import ProjectPicker.Text.LowerCase
import ProjectPicker.Text.Split

/-!
# Log filters

* `isLevel` : the names and numbers of log levels;
* `isDirective` : one rule, `target[span{field=value}]=level`, of which each part may be left out;
* `isValid` : a filter, which is a list of rules between commas.
-/

set_option autoImplicit false

namespace ProjectPicker.LogFilter

def levelNames : List String := ["error", "warn", "info", "debug", "trace", "off"]

def isLevel (text : String) : Bool :=
  levelNames.contains (Text.lowerAscii text) ||
    match Text.readCount text with
    | .ok n => n ≤ 5
    | .error _ => false

/-- Where a rule stands. -/
inductive State where
  | start
  | target
  | span
  /-- Inside the braces, with whether nothing was written for the field yet. -/
  | field (empty : Bool)
  | fields
  | afterSpan
  | level (text : List Char)

def beginsTarget (c : Char) : Bool := c == '-' || c == ':' || c == '_' || Text.isAlphanumeric c

def State.next : State → Char → Option State
  | .start, c => if c == '[' then some .span else if beginsTarget c then some .target else none
  | .target, c =>
    if c == '=' then some (.level []) else if c == '[' then some .span else some .target
  | .span, c =>
    if c == ']' then some .afterSpan else if c == '\x7b' then some (.field true) else some .span
  | .field empty, c =>
    if c == '\x7d' then (if empty then none else some .fields) else some (.field false)
  | .fields, c => if c == ']' then some .afterSpan else none
  | .afterSpan, c => if c == '=' then some (.level []) else none
  | .level text, c => some (.level (text ++ [c]))

/-- Whether a rule may end in a state. A level has to be one, if it is not left out. -/
def State.mayEnd : State → Bool
  | .target => true
  | .afterSpan => true
  | .level text => text.isEmpty || isLevel (String.ofList text)
  | _ => false

/-- A rule. With blanks around it, it may name no level. -/
def isDirective (cs : List Char) : Bool :=
  let trimmed := Text.trimChars cs
  match trimmed.foldlM State.next .start with
  | some (.level text) => cs == trimmed && (State.level text).mayEnd
  | some state => state.mayEnd
  | none => false

/-- A filter: rules between commas, where nothing is no rule. -/
def isValid (text : String) : Bool :=
  ((Text.splitOn ',' text.toList).filter (!·.isEmpty)).all isDirective

end ProjectPicker.LogFilter
