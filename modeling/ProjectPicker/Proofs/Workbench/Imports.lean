import ProjectPicker.Proofs.Workbench.Onlookers

/-!
# Imports on a workbench

* `take_add_fits`, `take_add_nothing`, `take_add_misfit` : what an import comes to, whoever listens;
* `take_add_overheard` : what it comes to where listeners only look;
* `add_all_or_nothing` : an import appends all that its source offers and then announces each name,
  or does nothing at all.
-/

set_option autoImplicit false

namespace ProjectPicker.Workbench

variable {w : Workbench} {source : Source}

/-- The workbench where all that a source offers was appended, and is not announced yet. -/
def grown (w : Workbench) (source : Source) : Workbench :=
  { w with board := { w.board with ready := w.board.ready ++ w.board.offered source } }

theorem take_add_eq (depth : Nat) (source : Source) (w : Workbench) :
    take depth (.act (.add source)) w = add (reactions depth) source w := by
  rw [take_eq, perform]

/-- All is appended before the first name is announced. -/
theorem take_add_fits (depth : Nat) (fits : w.board.Fits source) :
    take depth (.act (.add source)) w =
      (announceAll (reactions depth) (Template.names (w.board.offered source))
        (w.grown source)).map fun w' =>
          (.ok (.names (Template.names (w.board.offered source))), w') := by
  rw [take_add_eq, add, fits.takeIn]
  exact Option.map_eq_bind.symm

theorem take_add_nothing (depth : Nat) (nothing : w.board.offered source = []) :
    take depth (.act (.add source)) w =
      some (.error (.refused (Board.nothingOffered source)), w) := by
  rw [take_add_eq, add, Board.takeIn_nothing nothing]

theorem take_add_misfit (depth : Nat) (offers : w.board.offered source ≠ [])
    (misfit : ¬ w.board.Fits source) :
    ∃ i n, ReadyList.FirstClash (Template.names w.board.ready)
        (Template.names (w.board.offered source)) i n ∧
      take depth (.act (.add source)) w =
        some (.error (.refused (.duplicateProjectName n)), w) := by
  obtain ⟨i, n, clash, refused⟩ := Board.takeIn_misfit offers misfit
  refine ⟨i, n, clash, ?_⟩
  rw [take_add_eq, add, refused]

/-- An import is granted exactly if what is offered fits, whatever listeners do about it. -/
theorem take_add_ok_iff {depth : Nat} {outcome : Outcome} {w' : Workbench}
    (h : take depth (.act (.add source)) w = some (outcome, w')) :
    (∃ answer, outcome = .ok answer) ↔ w.board.Fits source := by
  by_cases fits : w.board.Fits source
  · rw [take_add_fits depth fits] at h
    obtain ⟨u, -, hu⟩ := Option.map_eq_some_iff.1 h
    cases hu
    simp [fits]
  · have refused : ∃ fault, outcome = .error fault := by
      by_cases nothing : w.board.offered source = []
      · rw [take_add_nothing depth nothing] at h
        cases h
        exact ⟨_, rfl⟩
      · obtain ⟨i, n, -, clash⟩ := take_add_misfit depth nothing fits
        rw [clash] at h
        cases h
        exact ⟨_, rfl⟩
    obtain ⟨fault, rfl⟩ := refused
    simp [fits]

/-- Where listeners only look, they hear of all that is appended, and it is ready when they do. -/
theorem take_add_overheard (depth : Nat) (fits : w.board.Fits source)
    (onlookers : OnlookersOnly w) :
    ∃ w', take (depth + 1) (.act (.add source)) w =
        some (.ok (.names (Template.names (w.board.offered source))), w') ∧
      Overheard ((Template.names (w.board.offered source)).flatMap fun name =>
        (hearers w.projects.running w.projects.subscribers).map (·, name)) (w.grown source) w' := by
  obtain ⟨w', announced, heard⟩ := announceAll_overheard depth
    (Template.names (w.board.offered source)) (show OnlookersOnly (w.grown source) from onlookers)
  exact ⟨w', by rw [take_add_fits (depth + 1) fits, announced]; rfl, heard⟩

/-- An import is granted exactly if its source offers something, and all that it offers has distinct
names that no project has, whoever listens. Then all of it is appended in order before the first
name is announced, and the names are announced in order. If listeners only look, that comes to an
end, all of them hear each name once, and whenever one asks what is ready all of it is. An import
that is not granted changes nothing at all, and says what the first name is that clashes, if there
is one. -/
theorem add_all_or_nothing (w : Workbench) (depth : Nat) (source : Source) :
    let batch := w.board.offered source
    let names := Template.names batch
    let ready := w.board.ready
    let fits := batch ≠ [] ∧ names.Nodup ∧ ∀ n ∈ names, n ∉ Template.names ready
    let step : Step := .act (.add source)
    (∀ outcome w', take depth step w = some (outcome, w') →
        ((∃ answer, outcome = .ok answer) ↔ fits)) ∧
      (fits → take depth step w =
        (announceAll (reactions depth) names
          { w with board := { w.board with ready := ready ++ batch } }).map
            fun w' => (.ok (.names names), w')) ∧
      (fits → OnlookersOnly w →
        ∃ w' new, take (depth + 1) step w = some (.ok (.names names), w') ∧
          w'.board.ready = ready ++ batch ∧ w'.log = w.log ++ new ∧
          (new.filterMap heard? = names.flatMap fun name =>
            (hearers w.projects.running w.projects.subscribers).map (·, name)) ∧
          ∀ l answer, .did l (.act (.quiet .ready)) answer ∈ new →
            answer = .ok (.templates (ready ++ batch))) ∧
      (batch = [] →
        take depth step w = some (.error (.refused (Board.nothingOffered source)), w)) ∧
      (batch ≠ [] → ¬ fits →
        ∃ i n, ReadyList.FirstClash (Template.names ready) names i n ∧
          take depth step w = some (.error (.refused (.duplicateProjectName n)), w)) := by
  intro batch names ready fits step
  have fits_iff : w.board.Fits source ↔ fits :=
    ⟨fun h => ⟨h.offers, h.distinct, h.free⟩, fun h => ⟨h.1, h.2.1, h.2.2⟩⟩
  refine ⟨fun outcome w' h => (take_add_ok_iff h).trans fits_iff,
    fun h => take_add_fits depth (fits_iff.2 h), fun h onlookers => ?_, take_add_nothing depth,
    fun offers misfit => take_add_misfit depth offers (mt fits_iff.1 misfit)⟩
  obtain ⟨w', taken, same, new, log, heard, told⟩ :=
    take_add_overheard depth (fits_iff.2 h) onlookers
  exact ⟨w', new, taken, same.ready, log, heard, told⟩

/-- A workbench with a project, two chosen templates, a Git field, and a listener that asks which
projects are ready. -/
def attended : Workbench where
  board := { ready := [{ name := "b" }], chosen := [{ name := "a" }, { name := "c" }] }
  projects := (Channel.empty.subscribe (.field .git)).subscribe
    (.listener ⟨"l", [("*", [.act (.quiet .ready)])]⟩)
  gitFields := [⟨"git", 0, ⟨""⟩⟩]

theorem add_all_or_nothing_attended :
    let ready : List Template := [{ name := "b" }, { name := "a" }, { name := "c" }]
    (∃ w', take 1 (.act (.add .templates)) attended = some (.ok (.names ["a", "c"]), w') ∧
        w'.board.ready = ready ∧ w'.log.filterMap heard? = [("l", "a"), ("l", "c")] ∧
        ∀ l answer, .did l (.act (.quiet .ready)) answer ∈ w'.log →
          answer = .ok (.templates ready)) ∧
      take 0 (.act (.add .git)) attended =
        some (.error (.refused (.emptyLocation .git)), attended) ∧
      let again := { attended with board := { attended.board with chosen := ready } }
      ∃ i n, ReadyList.FirstClash ["b"] ["b", "a", "c"] i n ∧
        take 0 (.act (.add .templates)) again =
          some (.error (.refused (.duplicateProjectName n)), again) := by
  intro ready
  obtain ⟨-, -, granted, -⟩ := add_all_or_nothing attended 0 .templates
  obtain ⟨-, -, -, nothing, -⟩ := add_all_or_nothing attended 0 .git
  obtain ⟨-, -, -, -, clash⟩ := add_all_or_nothing
    { attended with board := { attended.board with chosen := ready } } 0 .templates
  have onlookers : OnlookersOnly attended := by
    intro id l hl payload step hs
    obtain ⟨rfl, rfl⟩ : id = 1 ∧ l = ⟨"l", [("*", [.act (.quiet .ready)])]⟩ := by
      simpa [attended, Channel.subscribe, Channel.empty] using hl
    have asks : Listener.reactions (⟨"l", [("*", [.act (.quiet .ready)])]⟩ : Listener) payload =
        [.act (.quiet .ready)] := by
      cases h : payload == "*" <;> simp [Listener.reactions, List.lookup_cons, h]
    rw [asks, List.mem_singleton] at hs
    rw [hs]
    rfl
  refine ⟨?_, nothing rfl, clash (by decide) (by decide)⟩
  obtain ⟨w', new, taken, all, log, heard, told⟩ := granted (by decide) onlookers
  obtain rfl : w'.log = new := log
  exact ⟨w', taken, all, heard, told⟩

end ProjectPicker.Workbench
