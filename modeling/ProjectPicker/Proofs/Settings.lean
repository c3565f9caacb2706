import ProjectPicker.Program
import ProjectPicker.Proofs.Text.Count
import ProjectPicker.Proofs.Text.Trim

/-!
# What the variables tell the program

* `Origin.Denotes` : what a text means as the origin of a catalogue;
* `Variable.Accepts`, `Variable.Valid` : the texts, and the octets, that a variable may hold;
* `Told` : what the texts of the variables mean as settings;
* `Held`, `Held.In` : the octets that an environment holds for the variables;
* `Origin.parse?_eq_some_iff`, `readTimeout_eq_ok_iff`, `optional_eq` : the three ways in which a
  variable is read;
* `ofEnvironment_isOk_iff`, `told_of_ofEnvironment` : settings are read exactly if every text is
  accepted, and they are what the texts mean;
* `heeded_iff` : octets that are no text count as no value. So the settings are read exactly if all
  values are valid, unless there are such octets and all texts are accepted; one such value is
  passed over in `unheeded_octets`.
-/

set_option autoImplicit false

namespace ProjectPicker

namespace Origin

variable {text : String} {o : Origin}

def HasScheme (text : String) : Prop :=
  ∃ scheme ∈ ["http://", "https://"], ∃ head rest,
    text.toList = head ++ rest ∧ head.map Char.toLower = scheme.toList

/-- What a text means as the origin of a catalogue. -/
inductive Denotes (text : String) : Origin → Prop
  | http (web : HasScheme (Text.trim text)) : Denotes text (.http (Text.trim text))
  | file (plain : ¬ HasScheme (Text.trim text)) : Denotes text (.file (Text.trim text))

theorem isWebAddress_iff : isWebAddress text = true ↔ HasScheme text := by
  rw [isWebAddress, List.any_eq_true]
  refine exists_congr fun scheme => and_congr_right fun _ => ?_
  rw [List.isPrefixOf_iff_prefix, Text.lowerAscii, String.toList_map]
  constructor
  · rintro ⟨tail, h⟩
    obtain ⟨head, rest, whole, same, -⟩ := List.append_eq_map_iff.1 h
    exact ⟨head, rest, whole, same⟩
  · rintro ⟨head, rest, whole, same⟩
    exact ⟨rest.map Char.toLower, by rw [whole, List.map_append, same]⟩

/-- A text that is not blank is read as what it means. -/
theorem parse?_eq_some_iff :
    parse? text = some o ↔ Text.isBlankText text = false ∧ Denotes text o := by
  rw [parse?]
  simp only [Text.isEmpty_trim]
  cases blank : Text.isBlankText text with
  | true => simp
  | false =>
    simp only [Bool.false_eq_true, if_false, true_and]
    by_cases web : isWebAddress (Text.trim text) = true
    · rw [if_pos web, Option.some.injEq]
      constructor
      · rintro rfl
        exact .http (isWebAddress_iff.1 web)
      · rintro (- | plain)
        · rfl
        · exact absurd (isWebAddress_iff.1 web) plain
    · rw [if_neg web, Option.some.injEq]
      constructor
      · rintro rfl
        exact .file (web ∘ isWebAddress_iff.2)
      · rintro (has | -)
        · exact absurd (isWebAddress_iff.2 has) web
        · rfl

theorem parse?_isSome_iff : (∃ o, parse? text = some o) ↔ Text.isBlankText text = false := by
  simp only [parse?_eq_some_iff, exists_and_left, and_iff_left_iff_imp]
  intro _
  by_cases web : HasScheme (Text.trim text)
  · exact ⟨_, .http web⟩
  · exact ⟨_, .file web⟩

end Origin

namespace Settings

variable {e : Environment} {settings : Settings}

/-! ## What the values mean -/

def Variable.Accepts : Variable → String → Prop
  | .origin, text => Text.isBlankText text = false
  | .fetchTimeout, text => ∃ n, 0 < n ∧ n < Nat.pow 2 64 ∧ Text.WritesCount (Text.trim text) n
  | .stacksFile, _ | .logDirectory, _ | .logFilter, _ => True

def Variable.Valid (v : Variable) (octets : List UInt8) : Prop :=
  ∃ text, Text.decode? octets = some text ∧ v.Accepts text

def given? (text? : Option String) : Option String :=
  (text?.filter fun text => !Text.isBlankText text).map Text.trim

/-- The settings are what the texts of the variables mean, with the default for those that have no
text, and for a blank text where the variable may be left out. -/
structure Told (texts : Variable → Option String) (settings : Settings) : Prop where
  origin : ∀ text ∈ texts .origin, Origin.Denotes text settings.origin
  noOrigin : texts .origin = none → settings.origin = .file "templates.yaml"
  stacksFile : settings.stacksFile = given? (texts .stacksFile)
  fetchTimeout : ∀ text ∈ texts .fetchTimeout,
    Text.WritesCount (Text.trim text) settings.fetchTimeout
  noFetchTimeout : texts .fetchTimeout = none → settings.fetchTimeout = 5000
  logDirectory : settings.logDirectory = given? (texts .logDirectory)
  logFilter : settings.logFilter = (given? (texts .logFilter)).getD "debug"

/-! ## How they are read -/

theorem optional_eq (e : Environment) (v : Variable) : optional e v = given? (e.text? v.name) := by
  rw [optional, given?]
  cases e.text? v.name with
  | none => rfl
  | some text =>
    rw [Option.bind_eq_bind, Option.bind_some, present?]
    simp only [Text.isEmpty_trim]
    cases blank : Text.isBlankText text <;> simp [Option.filter, blank]

theorem readTimeout_eq_ok_iff {default n : Nat} :
    readTimeout e default = .ok n ↔
      (∀ text ∈ e.text? Variable.fetchTimeout.name,
        0 < n ∧ n < Nat.pow 2 64 ∧ Text.WritesCount (Text.trim text) n) ∧
      (e.text? Variable.fetchTimeout.name = none → n = default) := by
  rw [readTimeout]
  cases e.text? Variable.fetchTimeout.name with
  | none => simp [eq_comm]
  | some text =>
    simp only [Option.mem_def, Option.some.injEq, forall_eq', reduceCtorEq, false_implies, and_true]
    have counts : (0 < n ∧ n < Nat.pow 2 64 ∧ Text.WritesCount (Text.trim text) n) ↔
        0 < n ∧ Text.readCount (Text.trim text) = .ok n :=
      and_congr_right fun _ => and_comm.trans Text.readCount_eq_ok_iff.symm
    rw [counts]
    cases Text.readCount (Text.trim text) with
    | error fault => simp
    | ok m =>
      cases m with
      | zero =>
        refine ⟨nofun, fun ⟨positive, zero⟩ => ?_⟩
        exact absurd (Except.ok.inj zero) (Nat.ne_of_lt positive)
      | succ m =>
        simp only [Except.ok.injEq]
        exact ⟨fun same => ⟨same ▸ m.succ_pos, same⟩, fun h => h.2⟩

theorem parse?_defaultOrigin : Origin.parse? defaultOrigin = some (.file "templates.yaml") := by
  have bare : Text.trim "templates.yaml" = "templates.yaml" := by decide
  have plain : Origin.isWebAddress "templates.yaml" = false := by
    simp only [Origin.isWebAddress, Text.lowerAscii, String.toList_map]
    decide
  rw [defaultOrigin, Origin.parse?, bare, plain]
  rfl

theorem ofEnvironment_eq_ok_iff :
    ofEnvironment e = .ok settings ↔
      ∃ origin, Origin.parse? ((e.text? Variable.origin.name).getD defaultOrigin) = some origin ∧
        ∃ fetchTimeout, readTimeout e 5000 = .ok fetchTimeout ∧
          { origin, fetchTimeout
            stacksFile := optional e .stacksFile
            logDirectory := optional e .logDirectory
            logFilter := (optional e .logFilter).getD "debug" } = settings := by
  rw [ofEnvironment]
  cases Origin.parse? ((e.text? Variable.origin.name).getD defaultOrigin) with
  | none => simp
  | some origin =>
    cases timeout : readTimeout e 5000 with
    | error fault => simp [timeout, bind, Except.bind]
    | ok n => simp [timeout, bind, Except.bind, pure, Except.pure]

section Reading

variable {texts : Variable → Option String}

theorem ofEnvironment_isOk_iff (holds : ∀ v, e.text? v.name = texts v) :
    (∃ settings, ofEnvironment e = .ok settings) ↔ ∀ v, ∀ text ∈ texts v, v.Accepts text := by
  have origin : (∃ o, Origin.parse? ((e.text? Variable.origin.name).getD defaultOrigin) = some o) ↔
      ∀ text ∈ texts .origin, Variable.origin.Accepts text := by
    rw [Origin.parse?_isSome_iff, holds]
    cases texts .origin with
    | none => exact iff_of_true (by decide) nofun
    | some text => simp [Variable.Accepts]
  have timeout : (∃ n, readTimeout e 5000 = .ok n) ↔
      ∀ text ∈ texts .fetchTimeout, Variable.fetchTimeout.Accepts text := by
    simp only [readTimeout_eq_ok_iff, holds]
    cases texts .fetchTimeout with
    | none => simp
    | some text => simp [Variable.Accepts]
  have all : (∀ v, ∀ text ∈ texts v, v.Accepts text) ↔
      (∀ text ∈ texts .origin, Variable.origin.Accepts text) ∧
        ∀ text ∈ texts .fetchTimeout, Variable.fetchTimeout.Accepts text := by
    refine ⟨fun h => ⟨h .origin, h .fetchTimeout⟩, ?_⟩
    rintro ⟨first, second⟩ (_ | _ | _ | _ | _)
    · exact first
    · exact fun _ _ => trivial
    · exact second
    · exact fun _ _ => trivial
    · exact fun _ _ => trivial
  rw [all, ← origin, ← timeout]
  simp only [ofEnvironment_eq_ok_iff]
  constructor
  · rintro ⟨_, o, named, n, counted, -⟩
    exact ⟨⟨o, named⟩, n, counted⟩
  · rintro ⟨⟨o, named⟩, n, counted⟩
    exact ⟨_, o, named, n, counted, rfl⟩

theorem told_of_ofEnvironment (holds : ∀ v, e.text? v.name = texts v)
    (read : ofEnvironment e = .ok settings) : settings.Told texts := by
  obtain ⟨origin, named, fetchTimeout, counted, rfl⟩ := ofEnvironment_eq_ok_iff.1 read
  obtain ⟨given, missing⟩ := readTimeout_eq_ok_iff.1 counted
  rw [holds] at named given missing
  have meant := (Origin.parse?_eq_some_iff.1 named).2
  exact {
    origin := fun text h => by simpa [Option.mem_def.1 h] using meant
    noOrigin := fun h => by
      rw [h] at named
      exact Option.some.inj (named.symm.trans parse?_defaultOrigin)
    stacksFile := by rw [← holds]; exact optional_eq e .stacksFile
    fetchTimeout := fun text h => (given text h).2.2
    noFetchTimeout := missing
    logDirectory := by rw [← holds]; exact optional_eq e .logDirectory
    logFilter := by rw [← holds]; exact congrArg (·.getD "debug") (optional_eq e .logFilter) }

end Reading

/-! ## Octets -/

/-- The octets that variables are set to; the others are not set. -/
def Held := Variable → Option (List UInt8)

namespace Held

variable (held : Held)

def text? (v : Variable) : Option String := (held v).bind Text.decode?

def Legible : Prop := ∀ v, ∀ octets ∈ held v, (Text.decode? octets).isSome = true

def Accepted : Prop := ∀ v, ∀ text ∈ held.text? v, v.Accepts text

/-- An environment holds the octets. -/
def In (e : Environment) : Prop := ∀ v, e.entries.lookup v.name = (held v).map Text.decode?

variable {held}

theorem In.text?_eq (h : held.In e) (v : Variable) : e.text? v.name = held.text? v := by
  rw [Environment.text?, h v, text?]
  cases held v <;> rfl

theorem valid_iff : (∀ v, ∀ octets ∈ held v, v.Valid octets) ↔ held.Legible ∧ held.Accepted := by
  constructor
  · refine fun valid => ⟨fun v octets set => ?_, fun v text shown => ?_⟩
    · obtain ⟨text, decoded, -⟩ := valid v octets set
      rw [decoded]
      rfl
    · obtain ⟨octets, set, decoded⟩ := Option.bind_eq_some_iff.1 shown
      obtain ⟨text', decoded', accepts⟩ := valid v octets set
      obtain rfl := Option.some.inj (decoded.symm.trans decoded')
      exact accepts
  · rintro ⟨legible, accepted⟩ v octets set
    obtain ⟨text, decoded⟩ := Option.isSome_iff_exists.1 (legible v octets set)
    exact ⟨text, decoded, accepted v text (Option.bind_eq_some_iff.2 ⟨octets, set, decoded⟩)⟩

def timeout (octets : List UInt8) : Held
  | .fetchTimeout => some octets
  | _ => none

def timed (octets : List UInt8) : Environment :=
  ⟨[(Variable.fetchTimeout.name, Text.decode? octets)]⟩

theorem timeout_in (octets : List UInt8) : (timeout octets).In (timed octets) := by
  rintro (_ | _ | _ | _ | _) <;> rfl

end Held

end Settings

namespace Program

def configure (e : Environment) (files : Files) : Except SettingsError Settings :=
  Settings.ofEnvironment (loadEnvironment Machine.ofFiles e files).1

variable {e : Environment} {files : Files}

theorem configure_eq (noFile : ∀ octets, files.read environmentFile ≠ .ok octets) :
    configure e files = Settings.ofEnvironment e := by
  have read : Machine.ofFiles.read environmentFile files = (files.read environmentFile, files) :=
    rfl
  simp only [configure, loadEnvironment, bind, StateT.bind, read]
  cases found : files.read environmentFile with
  | ok octets => exact absurd found (noFile octets)
  | error fault => rfl

theorem noFile_empty (octets : List UInt8) :
    ({} : Files).read environmentFile ≠ .ok octets := by
  rw [show ({} : Files).read environmentFile = .error .missing by rfl]
  nofun

/-- The settings are read exactly if every text is accepted, and they are what the texts mean.
Octets that are no text are passed over, so the settings are read exactly if all values are valid
unless there are such octets and every text is accepted. -/
theorem heeded_iff {held : Settings.Held} (holds : held.In e)
    (noFile : ∀ octets, files.read environmentFile ≠ .ok octets) :
    ((∃ settings, configure e files = .ok settings) ↔ held.Accepted) ∧
      (∀ settings, configure e files = .ok settings → settings.Told held.text?) ∧
      (((∃ settings, configure e files = .ok settings) ↔
          ∀ v, ∀ octets ∈ held v, v.Valid octets) ↔
        held.Legible ∨ ¬ held.Accepted) := by
  have readable : (∃ settings, Settings.ofEnvironment e = .ok settings) ↔ held.Accepted :=
    Settings.ofEnvironment_isOk_iff holds.text?_eq
  rw [configure_eq noFile]
  refine ⟨readable, fun settings => Settings.told_of_ofEnvironment holds.text?_eq, ?_⟩
  rw [readable, Settings.Held.valid_iff]
  by_cases accepted : held.Accepted
  · simp [accepted]
  · simp [accepted]

/-- A count with a sign is heeded. -/
theorem heeded_signed :
    (Settings.Held.timeout [0x2B, 0x37]).In (Settings.Held.timed [0x2B, 0x37]) ∧
      (∀ octets, ({} : Files).read environmentFile ≠ .ok octets) ∧
        ∃ settings, configure (Settings.Held.timed [0x2B, 0x37]) {} = .ok settings ∧
          settings.Told (Settings.Held.timeout [0x2B, 0x37]).text? := by
  obtain ⟨readable, told, -⟩ := heeded_iff (Settings.Held.timeout_in [0x2B, 0x37]) noFile_empty
  have accepted : (Settings.Held.timeout [0x2B, 0x37]).Accepted := by
    rintro (_ | _ | _ | _ | _) text h
    case fetchTimeout =>
      obtain rfl : "+7" = text := Option.some.inj (h.symm.trans (by decide)).symm
      exact ⟨7, by decide, by decide, ['7'], by decide, List.forall_mem_singleton.2 rfl, rfl,
        .inr rfl⟩
    all_goals cases h
  obtain ⟨settings, read⟩ := readable.2 accepted
  exact ⟨Settings.Held.timeout_in _, noFile_empty, settings, read, told settings read⟩

/-- Octets that are no text pass for no value, and the program starts with the default. -/
theorem unheeded_octets :
    (Settings.Held.timeout [0xFF]).In (Settings.Held.timed [0xFF]) ∧
      (∀ octets, ({} : Files).read environmentFile ≠ .ok octets) ∧
        configure (Settings.Held.timed [0xFF]) {} = .ok { origin := .file "templates.yaml" } ∧
          ¬ Settings.Variable.fetchTimeout.Valid [0xFF] := by
  refine ⟨Settings.Held.timeout_in _, noFile_empty, ?_, ?_⟩
  · rw [configure_eq noFile_empty, Settings.ofEnvironment_eq_ok_iff]
    exact ⟨_, Settings.parse?_defaultOrigin, 5000, by rfl, rfl⟩
  · rintro ⟨text, decoded, -⟩
    exact absurd decoded (by simp [show Text.decode? [0xFF] = none by decide])

end Program

end ProjectPicker
