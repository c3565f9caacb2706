import ProjectPicker.Proofs.Session.Effects

/-!
# The ready list as a ledger

* `Posting`, `postings` : what granted commands put down in their course: that a batch was added, or
  that the project at a position was called otherwise;
* `tally` : the ready list that postings tell of: all that was entered, in order, and each project
  called what it was called last;
* `Posts`, `posts_apply` : what a single command does to the ready list, and puts down;
* `Tallied.post` : so a ready list that was told by its postings still is;
* `applyAll_after` : a script comes to as much as its commands up to the first that is refused;
* `ready_ledger` : after every script the ready list is what its postings tell, whether the script
  goes on after a refusal or ends there.
-/

set_option autoImplicit false

namespace ProjectPicker

namespace Template

def called (t : Template) (name : String) : Template := { t with name, path := "/" ++ name }

/-- A template under the name that it was given last, if it was given one at all. -/
def lastCalled (t : Template) : Option String → Template
  | none => t
  | some name => t.called name

/-- All of a template but its name and its path. -/
def content (t : Template) : Template := { t with name := "", path := "" }

/-- The path of a template is the one that goes with its name. -/
def Rooted (t : Template) : Prop := t.path = "/" ++ t.name

theorem lastCalled_content (t : Template) (last : Option String) :
    (t.lastCalled last).content = t.content := by
  cases last <;> rfl

theorem lastCalled_called (t : Template) (last : Option String) (name : String) :
    (t.lastCalled last).called name = t.lastCalled (some name) := by
  cases last <;> rfl

theorem Rooted.lastCalled {t : Template} (h : t.Rooted) (last : Option String) :
    (t.lastCalled last).Rooted := by
  cases last with
  | none => exact h
  | some name => rfl

end Template

namespace Session

open Template (content)

variable {s : Session} {source : Source}

/-- The session that commands leave, one after the other, granted or refused. -/
def follow (s : Session) (commands : List Command) : Session :=
  commands.foldl (fun s command => (apply command).after s) s

/-! ## Postings -/

/-- What a granted command puts down that changes the ready list. -/
inductive Posting where
  | added (source : Source) (batch : List Template)
  | renamed (position : Nat) (name : String)
  deriving DecidableEq, Repr

/-- What a command puts down once it is granted: the batch that its source offers, or the position
of the project that it calls otherwise. -/
def entry? (s : Session) : Command → Option Posting
  | .addFromSource source => (s.board.candidates source).toOption.map (.added source)
  | .renameProject old new => some (.renamed ((Template.names s.board.ready).idxOf old) new)
  | _ => none

def posting? (s : Session) (command : Command) : Option Posting :=
  match (apply command).run s with
  | .ok _ _ => s.entry? command
  | .error _ _ => none

def postings : List Command → Session → List Posting
  | [], _ => []
  | command :: rest, s => (posting? s command).toList ++ postings rest ((apply command).after s)

/-- The templates that were entered, in order, each with its source. -/
def entered (ps : List Posting) : List (Source × Template) :=
  ps.flatMap fun
    | .added source batch => batch.map (source, ·)
    | .renamed _ _ => []

/-- What the project at a position was called last, if it was called otherwise at all. -/
def lastName? (ps : List Posting) (i : Nat) : Option String :=
  ps.foldl (fun last p => match p with
    | .added _ _ => last
    | .renamed j name => if j = i then some name else last) none

/-- The ready list that postings tell of. -/
def tally (ps : List Posting) : List Template :=
  (entered ps).mapIdx fun i (_, t) => t.lastCalled (lastName? ps i)

theorem getElem?_tally (ps : List Posting) (i : Nat) :
    (tally ps)[i]? = (entered ps)[i]?.map fun e => e.2.lastCalled (lastName? ps i) := by
  rw [tally, List.getElem?_mapIdx]

theorem length_tally (ps : List Posting) : (tally ps).length = (entered ps).length :=
  List.length_mapIdx

/-- A project keeps all but its name and its path. -/
theorem map_content_tally (ps : List Posting) :
    (tally ps).map content = (entered ps).map fun e => e.2.content := by
  refine List.ext_getElem? fun i => ?_
  rw [List.getElem?_map, List.getElem?_map, getElem?_tally, Option.map_map]
  exact congrArg (Option.map · _) (funext fun e => e.2.lastCalled_content _)

theorem entered_append (ps qs : List Posting) : entered (ps ++ qs) = entered ps ++ entered qs :=
  List.flatMap_append

theorem entered_added (source : Source) (batch : List Template) :
    entered [.added source batch] = batch.map (source, ·) := List.flatMap_singleton _ _

theorem entered_renamed (position : Nat) (name : String) : entered [.renamed position name] = [] :=
  rfl

theorem lastName?_added (ps : List Posting) (source : Source) (batch : List Template) :
    lastName? (ps ++ [.added source batch]) = lastName? ps := by
  funext i
  simp [lastName?]

theorem lastName?_renamed (ps : List Posting) (position : Nat) (name : String) (i : Nat) :
    lastName? (ps ++ [.renamed position name]) i =
      if position = i then some name else lastName? ps i := by
  simp [lastName?]

/-! ## What a command does -/

/-- What becomes of the ready list with a posting, or without one: nothing, or a batch comes last
whose paths go with its names if it is from a location, or a project is called otherwise where it
stands. -/
inductive Posts : List Template → Option Posting → List Template → Prop
  | nothing {ready : List Template} : Posts ready none ready
  | added {ready batch : List Template} {source : Source}
      (rooted : source ≠ .templates → ∀ t ∈ batch, t.Rooted) :
      Posts ready (some (.added source batch)) (ready ++ batch)
  | renamed {ready : List Template} {i : Nat} {t : Template} {name : String}
      (there : ready[i]? = some t) :
      Posts ready (some (.renamed i name)) (ready.set i (t.called name))

theorem rooted_of_candidates {batch : List Template} (h : s.board.candidates source = .ok batch)
    (imported : source ≠ .templates) : ∀ t ∈ batch, t.Rooted := by
  intro t ht
  obtain ⟨location, git | ⟨skip, zip⟩⟩ := Board.imported_of_candidates h imported t ht
  · obtain ⟨name, -, rfl⟩ := Option.map_eq_some_iff.1 git
    rfl
  · obtain ⟨name, -, rfl⟩ := Option.map_eq_some_iff.1 zip
    rfl

theorem posts_add (wired : Wired s.channel) (inStep : InStep s) {s' : Session}
    (h : (apply (.addFromSource source)).run s = .ok () s') :
    Posts s.board.ready (s.entry? (.addFromSource source)) s'.board.ready := by
  simp only [apply, EStateM.run_bind] at h
  split at h
  · next names s₁ added =>
    cases h
    obtain ⟨batch, offered, -, -, rfl⟩ := add_eq_ok added
    rw [announceAll_ready (s := s.appended batch) wired (inStep.appended batch), entry?, offered]
    exact .added (rooted_of_candidates offered)
  · cases h

theorem posts_rename (distinct : ReadyList.Distinct s.board.ready) {old new : String} {s' : Session}
    (h : (rename old new).run s = .ok () s') :
    Posts s.board.ready (s.entry? (.renameProject old new)) s'.board.ready := by
  obtain ⟨t, ht, rfl, ready, granted, rfl⟩ := rename_eq_ok h
  obtain ⟨-, replaced⟩ := ReadyList.replace_eq_ok granted
  obtain ⟨x, name, there, rfl⟩ := replaced.eq_set distinct
  have same : x = t := List.inj_on_of_nodup_map distinct (List.mem_of_getElem? there) ht name
  exact .renamed (same ▸ there)

/-- Whatever a command does to the ready list, it puts down. -/
theorem posts_apply (wired : Wired s.channel) (inStep : InStep s)
    (distinct : ReadyList.Distinct s.board.ready) (command : Command) :
    Posts s.board.ready (posting? s command) ((apply command).after s).board.ready := by
  cases h : (apply command).run s with
  | error r s' =>
    rw [posting?, h, Attempt.after_of_error h, atomic_apply command s r s' h]
    exact .nothing
  | ok x s' =>
    rw [posting?, h, Attempt.after_of_ok h]
    cases command with
    | addFromSource source => exact posts_add wired inStep h
    | renameProject old new => exact posts_rename distinct h
    | selectStack id =>
      obtain rfl := selectStack_eq_ok h
      exact .nothing
    | setGitLocation location =>
      cases h
      exact .nothing
    | setZipLocation location skip =>
      cases h
      exact .nothing
    | toggleTemplate name checked =>
      cases h
      exact .nothing

/-! ## What commands do -/

/-- The ready list is what postings tell of. They rename only what was entered, and the paths of
what comes from a location go with its names. -/
structure Tallied (ps : List Posting) (ready : List Template) : Prop where
  told : ready = tally ps
  unnamed : ∀ i, ready.length ≤ i → lastName? ps i = none
  rooted : ∀ source t, (source, t) ∈ entered ps → source ≠ .templates → t.Rooted

theorem tallied_nil : Tallied [] [] := ⟨rfl, fun _ _ => rfl, fun _ _ never => by cases never⟩

theorem tally_added {ps : List Posting} {batch : List Template}
    (unnamed : ∀ i, (tally ps).length ≤ i → lastName? ps i = none) :
    tally (ps ++ [.added source batch]) = tally ps ++ batch := by
  refine List.ext_getElem? fun i => ?_
  rw [getElem?_tally, lastName?_added, entered_append, entered_added]
  obtain old | new := Nat.lt_or_ge i (tally ps).length
  · rw [List.getElem?_append_left old, List.getElem?_append_left (length_tally ps ▸ old),
      getElem?_tally]
  · rw [List.getElem?_append_right new, List.getElem?_append_right (length_tally ps ▸ new),
      length_tally, List.getElem?_map, Option.map_map, unnamed i new]
    exact Option.map_id'

/-- A project that is called otherwise stays where it is, and keeps what it has. -/
theorem tally_renamed {ps : List Posting} {i : Nat} {t : Template} {name : String}
    (there : (tally ps)[i]? = some t) :
    tally (ps ++ [.renamed i name]) = (tally ps).set i (t.called name) := by
  refine List.ext_getElem? fun j => ?_
  rw [getElem?_tally, lastName?_renamed, entered_append, entered_renamed, List.append_nil,
    List.getElem?_set]
  by_cases h : i = j
  · subst h
    obtain ⟨e, he, rfl⟩ := Option.map_eq_some_iff.1 (getElem?_tally ps i ▸ there)
    rw [if_pos rfl, if_pos rfl, if_pos (List.getElem?_eq_some_iff.1 there).1, he, Option.map_some,
      Template.lastCalled_called]
  · rw [if_neg h, if_neg h, getElem?_tally]

/-- What was told by its postings still is with one more. -/
theorem Tallied.post {ps : List Posting} {p : Option Posting} {ready ready' : List Template}
    (h : Tallied ps ready) (posts : Posts ready p ready') : Tallied (ps ++ p.toList) ready' := by
  obtain ⟨rfl, unnamed, rooted⟩ := h
  cases posts with
  | nothing =>
    rw [Option.toList_none, List.append_nil]
    exact ⟨rfl, unnamed, rooted⟩
  | added fromLocation =>
    refine ⟨(tally_added unnamed).symm, fun i hi => ?_, fun source' t ht location => ?_⟩
    · rw [List.length_append] at hi
      rw [Option.toList_some, lastName?_added]
      exact unnamed i (by omega)
    · rw [Option.toList_some, entered_append, entered_added, List.mem_append] at ht
      obtain old | new := ht
      · exact rooted source' t old location
      · obtain ⟨u, hu, same⟩ := List.mem_map.1 new
        cases same
        exact fromLocation location t hu
  | @renamed i t name there =>
    refine ⟨(tally_renamed there).symm, fun j hj => ?_, fun source' t' ht => rooted source' t' ?_⟩
    · rw [List.length_set] at hj
      have earlier : i < (tally ps).length := (List.getElem?_eq_some_iff.1 there).1
      rw [Option.toList_some, lastName?_renamed, if_neg (by omega)]
      exact unnamed j hj
    · simpa only [Option.toList_some, entered_append, entered_renamed, List.append_nil] using ht

/-! ## Scripts -/

theorem follow_concat (s : Session) (commands : List Command) (command : Command) :
    s.follow (commands ++ [command]) = (apply command).after (s.follow commands) := by
  simp [follow]

theorem postings_append (commands later : List Command) (s : Session) :
    postings (commands ++ later) s = postings commands s ++ postings later (s.follow commands) := by
  induction commands generalizing s with
  | nil => rfl
  | cons command rest ih =>
    rw [List.cons_append, postings, ih, postings, List.append_assoc]
    rfl

theorem postings_singleton (command : Command) (s : Session) :
    postings [command] s = (posting? s command).toList := List.append_nil _

/-- The commands up to the first that is refused, which is left out. -/
def untilRefused : List Command → Session → List Command
  | [], _ => []
  | command :: rest, s =>
    match (apply command).run s with
    | .ok _ s' => command :: untilRefused rest s'
    | .error _ _ => []

/-- A script that ends at the first refusal comes to what its commands before that come to. -/
theorem applyAll_after (commands : List Command) (s : Session) :
    (applyAll commands).after s = s.follow (untilRefused commands s) := by
  induction commands generalizing s with
  | nil => rfl
  | cons command rest ih =>
    cases h : (apply command).run s with
    | ok x s' =>
      have first : s.follow (command :: untilRefused rest s') = s'.follow (untilRefused rest s') :=
        congrArg (follow · _) (Attempt.after_of_ok h)
      rw [untilRefused, h, first, ← ih]
      simp only [Attempt.after, applyAll, EStateM.run_bind, EStateM.run_adaptExcept, h]
    | error r s' =>
      rw [untilRefused, h]
      simp only [Attempt.after, applyAll, EStateM.run_bind, EStateM.run_adaptExcept, h]
      exact atomic_apply command s r s' h

def opened (stackList : List Stack) (catalogue : List Template) : Session :=
  (load (.ok catalogue) : Attempt Empty Session Unit).after (start stackList)

theorem follow_opened (stackList : List Stack) (catalogue : List Template)
    (commands : List Command) :
    (opened stackList catalogue).follow commands =
      (start stackList).run
        (.load (.ok catalogue) :: commands.map (.apply : _ → Operation Empty)) := by
  rw [run, List.foldl_cons, List.foldl_map]
  rfl

/-- What a script makes of the ready list. -/
structure Ledger (s : Session) (commands : List Command) : Prop where
  /-- It is the batches that were added, in order, and each project is called what it was called
  last. -/
  told : (s.follow commands).board.ready = tally (postings commands s)
  /-- Each command leaves the projects where they are. -/
  steps : ∀ before command, before ++ [command] <+: commands →
    Posts (s.follow before).board.ready (posting? (s.follow before) command)
      (s.follow (before ++ [command])).board.ready
  /-- Whatever was there earlier still is, but for names and paths. -/
  grows : ∀ before, before <+: commands →
    (s.follow before).board.ready.map content <+: (s.follow commands).board.ready.map content
  distinct : ReadyList.Distinct (s.follow commands).board.ready
  /-- What was entered from a location has the path of its name, whatever it is called. -/
  rooted : ∀ (i : Nat) (source : Source) (t u : Template),
    (entered (postings commands s))[i]? = some (source, t) → source ≠ .templates →
    (s.follow commands).board.ready[i]? = some u → u.Rooted

section Opened

variable (stackList : List Stack) (catalogue : List Template) (commands : List Command)

theorem posts_opened (command : Command) :
    let s := (opened stackList catalogue).follow commands
    Posts s.board.ready (posting? s command)
      ((opened stackList catalogue).follow (commands ++ [command])).board.ready := by
  rw [follow_concat, follow_opened]
  obtain ⟨wired, inStep⟩ := run_inStep stackList
    (.load (.ok catalogue) :: commands.map (.apply : _ → Operation Empty))
  exact posts_apply wired inStep (distinct_run stackList _) command

theorem tallied_opened :
    Tallied (postings commands (opened stackList catalogue))
      ((opened stackList catalogue).follow commands).board.ready := by
  -- From the right: the command that comes last changes what those before it have told.
  induction commands using List.reverseRecOn with
  | nil => exact tallied_nil
  | append_singleton before command ih =>
    rw [postings_append, postings_singleton]
    exact ih.post (posts_opened stackList catalogue before command)

theorem ledger_opened : Ledger (opened stackList catalogue) commands := by
  obtain ⟨told, -, rooted⟩ := tallied_opened stackList catalogue commands
  refine ⟨told, fun before command _ => posts_opened stackList catalogue before command, ?_, ?_, ?_⟩
  · rintro before ⟨later, rfl⟩
    rw [told, (tallied_opened stackList catalogue before).told, map_content_tally,
      map_content_tally, postings_append, entered_append, List.map_append]
    exact List.prefix_append _ _
  · rw [follow_opened]
    exact distinct_run stackList _
  · intro i source t u he location hu
    rw [told, getElem?_tally, he] at hu
    cases hu
    exact (rooted source t (List.mem_of_getElem? he) location).lastCalled _

end Opened

/-- After every script the ready list is the batches that were added, in order, each project with
all that it was entered with but the name that it was called last and the path of it. No command
removes a project, moves it or enters it twice, and what came from a location has the path of its
name. That holds if the script goes on after refusals, and if it ends at the first. -/
theorem ready_ledger (stackList : List Stack) (catalogue : List Template)
    (commands : List Command) :
    Ledger (opened stackList catalogue) commands ∧
      (applyAll commands).after (opened stackList catalogue) =
        (opened stackList catalogue).follow
          (untilRefused commands (opened stackList catalogue)) ∧
      Ledger (opened stackList catalogue) (untilRefused commands (opened stackList catalogue)) :=
  ⟨ledger_opened stackList catalogue commands, applyAll_after commands _,
    ledger_opened stackList catalogue _⟩

/-- Two projects swap their names by way of a third, while a second import of the same project and a
renaming to a taken name are refused. -/
def swapping : List Command :=
  [.setGitLocation "https://host/a.git", .addFromSource .git, .addFromSource .git,
    .setZipLocation "https://host/b.zip" false, .addFromSource .zip, .renameProject "a" "c",
    .renameProject "b" "a", .renameProject "c" "a", .renameProject "c" "b"]

theorem ready_ledger_swapped :
    let s := opened [] []
    let a := Location.template "a" "git" "https://host/a.git" .empty
    let b := Location.template "b" "zip" "https://host/b.zip" .empty
    let told := [.added .git [a], .added .zip [b], .renamed 0 "c", .renamed 1 "a", .renamed 0 "b"]
    postings swapping s = told ∧ tally told = [a.called "b", b.called "a"] ∧
      (s.follow swapping).board.ready = [a.called "b", b.called "a"] ∧
      ((applyAll swapping).after s).board.ready = [a] := by
  intro s a b told
  have posted : postings swapping s = told := by decide +kernel
  have whole : tally told = [a.called "b", b.called "a"] := by decide +kernel
  have first : tally (postings (untilRefused swapping s) s) = [a] := by decide +kernel
  obtain ⟨goesOn, ends, untilThen⟩ := ready_ledger [] [] swapping
  refine ⟨posted, whole, ?_, ?_⟩
  · rw [goesOn.told, posted, whole]
  · rw [ends, untilThen.told, first]

end Session

end ProjectPicker
