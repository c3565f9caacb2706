import ProjectPicker.Proofs.Session.Stacks

/-!
# Sorting once

* `Template.filter_sort` : leaving templates out of the sorted list is sorting the rest;
* `stable_sorted` : the selector holds the catalogue sorted, from one fetch to the next;
* `sorted_once` : sorting is the one stable way to put templates in order, it commutes with leaving
  out those without a tag, and so whatever is listed for tags is the matching part of the catalogue
  sorted anew.
-/

set_option autoImplicit false

namespace ProjectPicker

theorem Template.filter_sort (p : Template → Bool) (templates : List Template) :
    (sort templates).filter p = sort (templates.filter p) :=
  stablySorted_iff.1 ((stablySorted_sort templates).filter p)

namespace Session

variable {ε : Type}

/-- The selector holds the templates of the catalogue, and nothing but a fetch changes either. -/
theorem stable_sorted : Stable fun s =>
    Wired s.channel ∧ s.selector.all = Template.sort s.board.catalogue where
  load _ _ h := ⟨h.1, rfl⟩
  activate s id h := ⟨h.1, (alike_activate s id).all.trans h.2⟩
  typeGit _ _ h := h
  typeZip _ _ _ h := h
  toggle _ _ _ h := h
  ready _ _ _ h := h
  announce s name h := by
    obtain ⟨wired, sorted⟩ := h
    have all : (s.announce name).2.selector.all = s.selector.all :=
      (sameListing_announce wired name).all
    have catalogue : (s.announce name).2.board.catalogue = s.board.catalogue := by
      rw [announced wired]
    exact ⟨announce_channel wired.idle ▸ wired, by rw [all, catalogue, sorted]⟩
  listen _ name h := ⟨h.1.listen name, h.2⟩
  unlisten _ name h := ⟨h.1.unlisten name, h.2⟩

/-- Sorting keeps all templates, and finds the only list that is in the order of the keys with those
of one key as they were before. Leaving out the templates without one of some tags may be done
before or after. So in every session that a run leads to, what is listed for tags is what sorting
the matching templates of the catalogue anew would give, though they were sorted when the catalogue
was fetched, and for whatever tags there were then. -/
theorem sorted_once (templates : List Template) (stackTags : List String) (stackList : List Stack)
    (ops : List (Operation ε)) :
    (Template.sort templates).Perm templates ∧
      (∀ sorted, Template.StablySorted templates sorted ↔ sorted = Template.sort templates) ∧
      (Template.sort templates).filter (·.hasTag stackTags) =
        Template.sort (templates.filter (·.hasTag stackTags)) ∧
      let s := (start stackList).run ops
      s.selector.stackTags ≠ [] → s.selector.listed =
        Template.sort (s.board.catalogue.filter (·.hasTag s.selector.stackTags)) := by
  refine ⟨(Template.stablySorted_sort templates).perm, fun _ => Template.stablySorted_iff,
    Template.filter_sort _ templates, ?_⟩
  intro s tagged
  obtain ⟨-, -, narrowed⟩ := stable_narrowed.run ops
    ⟨Wired.start stackList, Selector.follows_attach { stackList },
      Selector.narrowed_attach { stackList }⟩
  obtain ⟨-, sorted⟩ := stable_sorted.run ops
    ⟨Wired.start stackList, (List.mergeSort_nil).symm⟩
  calc s.selector.listed
    _ = s.selector.all.filter (·.hasTag s.selector.stackTags) := narrowed tagged
    _ = (Template.sort s.board.catalogue).filter (·.hasTag s.selector.stackTags) := by
      rw [sorted]
    _ = Template.sort (s.board.catalogue.filter (·.hasTag s.selector.stackTags)) :=
      Template.filter_sort _ _

/-- Three templates of which the first one is not listed, and the others are in the wrong order. -/
theorem sorted_once_disordered :
    let catalogue : List Template := [{ name := "a" },
      { name := "b", displayName := "z", tags := ["X"] }, { name := "c", tags := ["x"] }]
    let s := (start [⟨"s", "", ["x"]⟩]).run
      [(.load (.ok catalogue) : Operation Empty), .selectStack (some "s")]
    s.selector.stackTags ≠ [] ∧ s.selector.listed =
      Template.sort (s.board.catalogue.filter (·.hasTag s.selector.stackTags)) := by
  intro catalogue s
  have tags : s.selector.stackTags = ["x"] := by decide +kernel
  have tagged : s.selector.stackTags ≠ [] := by
    rw [tags]
    exact List.cons_ne_nil _ _
  obtain ⟨-, -, -, listed⟩ := sorted_once catalogue ["x"] [⟨"s", "", ["x"]⟩]
    [(.load (.ok catalogue) : Operation Empty), .selectStack (some "s")]
  exact ⟨tagged, listed tagged⟩

end Session

end ProjectPicker
