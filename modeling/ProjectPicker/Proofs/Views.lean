import ProjectPicker.GitField
import ProjectPicker.Selector
import ProjectPicker.ZipField

/-!
# What views write onto the board

Each view writes what it shows and nothing else: `GitField.clear_fst` and `GitField.clear_snd` say
what a field shows and what the board holds after a project was added, and likewise for the other
views. None of them touches the ready list.
-/

set_option autoImplicit false

namespace ProjectPicker

namespace GitField

variable (f : GitField) (b : Board) (location name : String)

abbrev refersTo : Bool := Location.refersTo f.location name Location.gitExtension

theorem clear_fst : (clear name f b).1 = if f.refersTo name then ⟨""⟩ else f := by
  rw [clear, apply_ite Prod.fst]
  rfl

theorem clear_snd :
    (clear name f b).2 =
      { b with gitLocation := if f.refersTo name then "" else b.gitLocation } := by
  rw [clear, refersTo]
  split <;> rfl

@[simp] theorem push_ready : (f.push b).ready = b.ready := rfl

@[simp] theorem type_ready : (type location f b).2.ready = b.ready := rfl

@[simp] theorem clear_ready : (clear name f b).2.ready = b.ready := by rw [clear_snd]

end GitField

namespace ZipField

variable (f : ZipField) (b : Board) (location name : String) (skip : Bool)

abbrev refersTo : Bool := Location.refersTo f.location name Location.zipExtension

theorem clear_fst : (clear name f b).1 = if f.refersTo name then ⟨"", false⟩ else f := by
  rw [clear, apply_ite Prod.fst]

theorem clear_snd :
    (clear name f b).2 =
      { b with
        zipLocation := if f.refersTo name then "" else b.zipLocation
        zipSkip := if f.refersTo name then false else b.zipSkip } := by
  rw [clear, refersTo]
  split <;> rfl

@[simp] theorem push_ready : (f.push b).ready = b.ready := rfl

@[simp] theorem type_ready : (type location f b).2.ready = b.ready := rfl

@[simp] theorem tick_ready : (tick skip f b).2.ready = b.ready := rfl

@[simp] theorem clear_ready : (clear name f b).2.ready = b.ready := by rw [clear_snd]

end ZipField

namespace Selector

variable (s : Selector) (b : Board) (name : String) (checked : Bool)

/-- Whether a selector has to do with a project called `name`. -/
abbrev concerns : Bool := s.checks.hasBox name || s.selected.any (·.name == name)

theorem added_selected :
    (added name s b).1.selected =
      if s.concerns name then s.selected.filter (·.name != name) else s.selected := by
  rw [added, apply_ite Prod.fst, apply_ite Selector.selected]
  rfl

/-- What the selector shows does not depend on the board. -/
theorem added_fst (b' : Board) : (added name s b).1 = (added name s b').1 := by
  rw [added, added]
  split <;> rfl

theorem added_snd :
    (added name s b).2 =
      { b with
        chosen := if s.concerns name then s.selected.filter (·.name != name) else b.chosen } := by
  rw [added, concerns]
  split <;> rfl

@[simp] theorem added_listed : (added name s b).1.listed = s.listed := by
  rw [added]
  split <;> rfl

@[simp] theorem click_ready : (click name checked s b).2.ready = b.ready := rfl

@[simp] theorem added_ready : (added name s b).2.ready = b.ready := by rw [added_snd]

end Selector

end ProjectPicker
