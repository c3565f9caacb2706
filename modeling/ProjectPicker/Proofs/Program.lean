import ProjectPicker.Program
import ProjectPicker.Proofs.Session.Listing

/-!
# What the program prints

* `Invocation.AskFor` : the arguments that ask for the templates of a stack. The id is attached to
  the option (`parse_attached`), or is an argument of its own that does not look like an option
  (`parse_separate`);
* `Stack.find?_eq_none_iff`, `Stack.find?_last` : which stack of a list counts for an id;
* `run_bind_ok`, `openSession_files` : the parts of the program, one after another;
* `Setup` : an environment and files from which a session can be opened. What is asked for is then
  answered in that session (`Setup.attempt_run`, `Setup.outcome_templates`);
* `templates_command` : so the program prints the templates of the last stack that has the id.
-/

set_option autoImplicit false

namespace ProjectPicker

/-! ## Arguments -/

namespace Invocation

/-- The arguments that ask for the templates of a stack. -/
inductive AskFor (id : String) : List String → Prop
  | attached : AskFor id ["templates", "--stack=" ++ id]
  | separate (plain : isOption id = false) : AskFor id ["templates", "--stack", id]

theorem attached?_append (option value : String) :
    attached? option (option ++ "=" ++ value) = some value := by
  have whole : (option ++ "=" ++ value).toList = (option ++ "=").toList ++ value.toList :=
    String.toList_append
  have length : (option ++ "=").toList.length = option.length + 1 := by
    rw [String.length_toList, String.length_append]
    rfl
  rw [attached?, whole, if_pos (List.isPrefixOf_iff_prefix.2 (List.prefix_append _ _)),
    List.drop_left' length, String.ofList_toList]

theorem parse_attached (id : String) :
    parse ["templates", "--stack=" ++ id] = .request (.templates (some id)) := by
  have other : "--stack=" ++ id ≠ "--" := by simp [← String.toList_inj]
  have noHelp : isHelp ("--stack=" ++ id) = false := by
    simp [isHelp, ← String.toList_inj, List.isPrefixOf]
  have value : attached? "--stack" ("--stack=" ++ id) = some id := attached?_append "--stack" id
  rw [parse, parseTemplates, parseOption, noHelp, value]
  · simp [parseOption]
  · exact fun h _ => other h

theorem parse_separate (id : String) :
    parse ["templates", "--stack", id] =
      if isOption id then .misuse else .request (.templates (some id)) := by
  have noHelp : isHelp "--stack" = false := by decide
  have value : attached? "--stack" "--stack" = none := by decide
  cases h : isOption id <;> simp [parse, parseTemplates, parseOption, noHelp, value, h]

theorem parse_of_askFor {id : String} {args : List String} (h : AskFor id args) :
    parse args = .request (.templates (some id)) := by
  cases h with
  | attached => exact parse_attached id
  | separate plain => rw [parse_separate, plain, if_neg Bool.false_ne_true]

end Invocation

/-! ## Stacks -/

namespace Stack

variable {stackList before after : List Stack} {stack : Stack} {id path : String}
  {octets : Except FileError (List UInt8)}

theorem find?_eq_none_iff : find? stackList id = none ↔ ∀ stack ∈ stackList, stack.id ≠ id := by
  simp [find?]

theorem find?_last (here : stack.id = id) (last : ∀ later ∈ after, later.id ≠ id) :
    find? (before ++ stack :: after) id = some stack := by
  have none : after.reverse.find? (·.id == id) = none := by simpa using last
  simp [find?, List.find?_append, none, here]

theorem ofFile_ok (decoded : decodeFile "stacks file" path decodeList octets = .ok stackList)
    (named : ∀ stack ∈ stackList, Text.isBlankText stack.id = false) :
    ofFile path octets = .ok stackList := by
  have noneBlank : (stackList.any fun stack => Text.isBlankText stack.id) = false := by
    simpa using named
  rw [ofFile, decoded]
  simp only [bind, Except.bind, noneBlank]
  rfl

end Stack

/-! ## Opening a session -/

namespace Program

variable {α β : Type} {files files' : Files} {settings : Settings} {path : String}
  {stackList : List Stack} {catalogue : List Template}

theorem run_bind_ok {x : ExceptT Failure (StateM Files) α} {a : α}
    (h : x.run files = (.ok a, files')) (f : α → ExceptT Failure (StateM Files) β) :
    (x >>= f).run files = (f a).run files' := by
  simp only [ExceptT.run, bind, ExceptT.bind, ExceptT.mk, StateT.bind] at h ⊢
  rw [h]
  rfl

theorem run_lift {x : StateM Files α} {a : α} (h : x files = (a, files')) :
    (liftM x : ExceptT Failure (StateM Files) α).run files = (.ok a, files') := by
  simp only [liftM, monadLift, MonadLift.monadLift, ExceptT.lift, ExceptT.run, ExceptT.mk,
    Functor.map, StateT.map, h]
  rfl

/-- The file of variables is read, and no file is changed. -/
theorem loadEnvironment_files (e : Environment) (files : Files) :
    (loadEnvironment Machine.ofFiles e files).2 = files := by
  have read : Machine.ofFiles.read environmentFile files = (files.read environmentFile, files) :=
    rfl
  simp only [loadEnvironment, bind, StateT.bind, read]
  cases files.read environmentFile <;> rfl

theorem loadStacks_file (file : settings.stacksFile = some path)
    (accepted : Stack.ofFile path (files.read path) = .ok stackList) :
    (loadStacks Machine.ofFiles settings).run files = (.ok stackList, files) := by
  have read : Machine.ofFiles.read path files = (files.read path, files) := rfl
  simp only [loadStacks, file]
  rw [run_bind_ok (run_lift read), accepted]
  rfl

theorem fetchCatalogue_file (timeout : Nat)
    (accepted : Catalogue.ofFile path (files.read path) = .ok catalogue) :
    fetchCatalogue Machine.ofFiles timeout (.file path) files = (.ok catalogue, files) := by
  rw [← accepted]
  rfl

def opened (stackList : List Stack) (catalogue : List Template) : Session :=
  Session.operate (.load (.ok catalogue) : Session.Operation CatalogueError) (.start stackList)

theorem openSession_files
    (known : (loadStacks Machine.ofFiles settings).run files = (.ok stackList, files))
    (origin : settings.origin = .file path)
    (accepted : Catalogue.ofFile path (files.read path) = .ok catalogue) :
    (openSession Machine.ofFiles settings).run files =
      (.ok (opened stackList catalogue), files) := by
  have registry : Registry.ofOrigin settings.origin = .ok (.file path) := by
    rw [origin]
    rfl
  have fetched := fetchCatalogue_file settings.fetchTimeout accepted
  rw [openSession, run_bind_ok known, registry]
  simp only
  rw [run_bind_ok (run_lift fetched)]
  rfl

theorem run_eq (args : List String) (e : Environment) (files : Files) :
    (run Machine.ofFiles args e files).1 =
      match ((attempt Machine.ofFiles args e).run files).1 with
      | .ok outcome => outcome
      | .error f => .failed f := by
  simp only [run, bind, StateT.bind]
  cases ended : (attempt Machine.ofFiles args e).run files with
  | mk outcome later => cases outcome <;> rfl

/-! ## What the program prints -/

/-- An environment and files by which the program finds its stacks and its templates. -/
structure Setup where
  environment : Environment
  files : Files
  settings : Settings
  configured : Settings.ofEnvironment (loadEnvironment Machine.ofFiles environment files).1 =
    .ok settings
  /-- The files once the log has its directory. -/
  later : Files
  logged : (prepareLog Machine.ofFiles settings).run files = (.ok (), later)
  stackPath : String
  stackFile : settings.stacksFile = some stackPath
  stackList : List Stack
  decoded : decodeFile "stacks file" stackPath Stack.decodeList (later.read stackPath) =
    .ok stackList
  named : ∀ stack ∈ stackList, Text.isBlankText stack.id = false
  cataloguePath : String
  origin : settings.origin = .file cataloguePath
  catalogue : List Template
  accepted : Catalogue.ofFile cataloguePath (later.read cataloguePath) = .ok catalogue

namespace Setup

variable (setup : Setup)

def outcome (args : List String) : Outcome :=
  (run Machine.ofFiles args setup.environment setup.files).1

def session : Session := opened setup.stackList setup.catalogue

theorem openSession_run :
    (openSession Machine.ofFiles setup.settings).run setup.later =
      (.ok setup.session, setup.later) :=
  openSession_files
    (loadStacks_file setup.stackFile (Stack.ofFile_ok setup.decoded setup.named))
    setup.origin setup.accepted

/-- What the program does first changes nothing but the directory of the log. -/
theorem attempt_run (args : List String) :
    (attempt Machine.ofFiles args setup.environment).run setup.files =
      (match Invocation.parse args with
        | .help => pure .help
        | .misuse => pure .misuse
        | .request r => do
          let text ← answer Machine.ofFiles setup.session r
          return .printed text : ExceptT Failure (StateM Files) Outcome).run setup.later := by
  have loaded : loadEnvironment Machine.ofFiles setup.environment setup.files =
      ((loadEnvironment Machine.ofFiles setup.environment setup.files).1, setup.files) :=
    Prod.ext rfl (loadEnvironment_files _ _)
  rw [attempt, run_bind_ok (run_lift loaded), setup.configured]
  simp only
  rw [run_bind_ok setup.logged]
  cases Invocation.parse args with
  | help => rfl
  | misuse => rfl
  | request r => exact run_bind_ok setup.openSession_run _

theorem outcome_misuse {args : List String} (parsed : Invocation.parse args = .misuse) :
    setup.outcome args = .misuse := by
  rw [outcome, run_eq, attempt_run, parsed]
  rfl

theorem outcome_templates {args : List String} {id : Option String}
    (parsed : Invocation.parse args = .request (.templates id)) :
    setup.outcome args = match listTemplates setup.session id with
      | .ok text => .printed text
      | .error f => .failed f := by
  rw [outcome, run_eq, attempt_run, parsed]
  simp only [answer]
  cases listTemplates setup.session id <;> rfl

theorem listTemplates_none : listTemplates setup.session none = .ok "" := rfl

variable {setup} {id : String}

theorem listTemplates_unknown (unknown : Stack.find? setup.stackList id = none) :
    listTemplates setup.session (some id) = .error ⟨(Refusal.unknownStack id).message, []⟩ := by
  have refused := Session.selectStack_unknown (s := setup.session) unknown
  rw [listTemplates, refused]

theorem listTemplates_known {stack : Stack} (known : Stack.find? setup.stackList id = some stack) :
    ∃ listed,
      Template.StablySorted
          (setup.catalogue.filter fun t => t.Carries (stack.tags.map Text.lower)) listed ∧
        listTemplates setup.session (some id) = .ok (String.join (listed.map templateLine)) := by
  have granted := Session.selectStack_known (s := setup.session) known
  refine ⟨_, Session.activate_listed (ε := CatalogueError) setup.catalogue known, ?_⟩
  rw [listTemplates, granted]
  rfl

end Setup

/-- The program prints the templates that carry a tag of the last stack with the id, in order, and
nothing for a stack without tags or without a stack. Where no stack has the id it fails. An id that
looks like an option has to be attached. -/
theorem templates_command (setup : Setup) :
    setup.outcome ["templates"] = .printed "" ∧
      (∀ id args, Invocation.AskFor id args →
        ((∀ stack ∈ setup.stackList, stack.id ≠ id) →
            setup.outcome args = .failed ⟨(Refusal.unknownStack id).message, []⟩) ∧
          ∀ before stack after, setup.stackList = before ++ stack :: after →
            stack.id = id → (∀ later ∈ after, later.id ≠ id) →
              (stack.tags = [] → setup.outcome args = .printed "") ∧
                ∃ listed,
                  Template.StablySorted
                      (setup.catalogue.filter fun t => t.Carries (stack.tags.map Text.lower))
                      listed ∧
                    setup.outcome args = .printed (String.join (listed.map fun t =>
                      t.name ++ "\t" ++ t.projectType ++ "\t" ++ t.displayName ++ "\n"))) ∧
        ∀ id, Invocation.isOption id = true →
          setup.outcome ["templates", "--stack", id] = .misuse := by
  refine ⟨?_, fun id args asked => ⟨fun unknown => ?_, ?_⟩, fun id optionLike => ?_⟩
  · rw [setup.outcome_templates rfl, setup.listTemplates_none]
  · rw [setup.outcome_templates (Invocation.parse_of_askFor asked),
      Setup.listTemplates_unknown (Stack.find?_eq_none_iff.2 unknown)]
  · intro before stack after split here last
    have known : Stack.find? setup.stackList id = some stack := by
      rw [split]
      exact Stack.find?_last here last
    obtain ⟨listed, sorted, printed⟩ := Setup.listTemplates_known known
    have outcome : setup.outcome args = .printed (String.join (listed.map templateLine)) := by
      rw [setup.outcome_templates (Invocation.parse_of_askFor asked), printed]
    refine ⟨fun untagged => ?_, listed, sorted, outcome⟩
    rw [untagged, List.map_nil, Template.filter_carries_nil] at sorted
    rw [outcome, sorted.perm.eq_nil]
    rfl
  · exact setup.outcome_misuse (by rw [Invocation.parse_separate, if_pos optionLike])

/-- Two stacks of one id, and one whose id looks like an option. -/
def sampleStacks : String := "[{id: s, tags: [y]}, {id: -x, tags: [x]}, {id: s, tags: [X]}]"

def sampleCatalogue : String := "[{name: b, displayName: z, tags: [X]}, {name: a, tags: [x]}]"

def sampleFiles : Files :=
  ⟨[(["stacks.yaml"], .file sampleStacks.toUTF8.toList),
    (["templates.yaml"], .file sampleCatalogue.toUTF8.toList)]⟩

def sampleSetup : Setup where
  environment := ⟨[("WIZARD_STACKS_FILE", some "stacks.yaml")]⟩
  files := sampleFiles
  settings := { origin := .file "templates.yaml", stacksFile := some "stacks.yaml" }
  configured := by decide +kernel
  later := sampleFiles
  logged := rfl
  stackPath := "stacks.yaml"
  stackFile := rfl
  stackList := [⟨"s", "", ["y"]⟩, ⟨"-x", "", ["x"]⟩, ⟨"s", "", ["X"]⟩]
  decoded := by decide +kernel
  named := by decide +kernel
  cataloguePath := "templates.yaml"
  origin := rfl
  catalogue := [{ name := "b", displayName := "z", tags := ["X"] }, { name := "a", tags := ["x"] }]
  accepted := by decide +kernel

theorem sampleSetup_sorted :
    Template.StablySorted (sampleSetup.catalogue.filter fun t => t.Carries ["x"])
      [{ name := "a", tags := ["x"] }, { name := "b", displayName := "z", tags := ["X"] }] := by
  have both : (sampleSetup.catalogue.filter fun t => t.Carries ["x"]) =
      [{ name := "b", displayName := "z", tags := ["X"] }, { name := "a", tags := ["x"] }] := by
    decide +kernel
  rw [both]
  refine ⟨List.pairwise_pair.2 (Template.precedes_iff.1 (by decide)), fun key => ?_⟩
  by_cases first : Template.key { name := "a", tags := ["x"] } = key
  · subst first
    decide
  · simp [List.filter_cons, first]

/-- The last stack counts, and the id that looks like an option is attached. -/
theorem templates_command_sample :
    sampleSetup.outcome ["templates", "--stack", "s"] = .printed "a\t\t\nb\t\tz\n" ∧
      sampleSetup.outcome ["templates", "--stack=-x"] = .printed "a\t\t\nb\t\tz\n" ∧
      sampleSetup.outcome ["templates", "--stack", "t"] = .failed ⟨"unknown stack `t`", []⟩ := by
  obtain ⟨-, asked, -⟩ := templates_command sampleSetup
  have lower : ["X"].map Text.lower = ["x"] ∧ ["x"].map Text.lower = ["x"] := by decide +kernel
  refine ⟨?_, ?_, (asked "t" _ (.separate (by decide))).1 (by decide)⟩
  · obtain ⟨-, listed, sorted, printed⟩ := (asked "s" _ (.separate (by decide))).2
      [⟨"s", "", ["y"]⟩, ⟨"-x", "", ["x"]⟩] ⟨"s", "", ["X"]⟩ [] rfl rfl (by simp)
    rw [lower.1] at sorted
    rw [printed, sorted.unique sampleSetup_sorted]
    rfl
  · obtain ⟨-, listed, sorted, printed⟩ := (asked "-x" _ .attached).2
      [⟨"s", "", ["y"]⟩] ⟨"-x", "", ["x"]⟩ [⟨"s", "", ["X"]⟩] rfl rfl (by decide)
    rw [lower.2] at sorted
    exact printed.trans (by rw [sorted.unique sampleSetup_sorted]; rfl)

/-- Not attached, that id is not taken for one, though a stack with templates has it. -/
theorem optionLike_refused :
    (∃ stack ∈ sampleSetup.stackList, stack.id = "-x" ∧
        ∃ t ∈ sampleSetup.catalogue, t.Carries (stack.tags.map Text.lower)) ∧
      sampleSetup.outcome ["templates", "--stack", "-x"] = .misuse := by
  refine ⟨⟨⟨"-x", "", ["x"]⟩, by decide, rfl, { name := "a", tags := ["x"] }, by decide, ?_⟩, ?_⟩
  · decide +kernel
  · exact sampleSetup.outcome_misuse (by decide)

end Program

end ProjectPicker
