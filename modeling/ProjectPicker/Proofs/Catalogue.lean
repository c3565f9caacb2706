import ProjectPicker.Catalogue
import ProjectPicker.Proofs.Names
import ProjectPicker.Proofs.Yaml.Decoding
import ProjectPicker.Proofs.Yaml.Document
import ProjectPicker.Proofs.Yaml.Legible
import ProjectPicker.Proofs.Yaml.Templates

/-!
# Catalogues in JSON

* `Catalogue.toJson` : the JSON of a catalogue;
* `Template.Accepted` : nothing in a template makes YAML refuse its JSON;
* `Catalogue.decode_compact_iff` : a catalogue is decoded from the text of its JSON with its texts
  folded;
* `Catalogue.parse_compact_eq_ok_iff` : what such a catalogue is read as;
* `Template.Legible` : a template whose texts and names are read as they were written;
* `Catalogue.parse_compact_iff` : a catalogue is read from the text of its JSON exactly if all of
  its templates are legible.
-/

set_option autoImplicit false

namespace ProjectPicker

open Json (Textual every)
open Yaml (Document Legible LegibleName Node foldedText isPermitted isUnmarked isKeyed node)
open Yaml.TokenStream (isKey)

/-! ## Templates -/

namespace Template

/-- Nothing in a template makes YAML refuse its JSON. -/
structure Accepted (t : Template) : Prop where
  texts : ∀ s ∈ t.texts, isPermitted s.toList = true ∧ isUnmarked s.toList = true
  names : ∀ n ∈ t.parameterNames, LegibleName n

/-- A template whose texts and names are read as they were written. -/
structure Legible (t : Template) : Prop where
  texts : ∀ s ∈ t.texts, Yaml.Legible s
  names : ∀ n ∈ t.parameterNames, LegibleName n

theorem legible_iff {t : Template} : t.Legible ↔ t.Accepted ∧ t.mapTexts foldedText = t := by
  rw [mapTexts_eq_self_iff]
  constructor
  · rintro ⟨texts, names⟩
    have parts := fun s member => Yaml.legible_iff.1 (texts s member)
    exact ⟨⟨fun s member => ⟨(parts s member).1, (parts s member).2.1⟩, names⟩,
      fun s member => (parts s member).2.2⟩
  · rintro ⟨⟨accepted, names⟩, same⟩
    refine ⟨fun s member => Yaml.legible_iff.2 ?_, names⟩
    exact ⟨(accepted s member).1, (accepted s member).2, same s member⟩

theorem legibleName_field : ∀ n ∈ fieldNames, LegibleName n := by
  have each : ∀ n ∈ fieldNames, isPermitted n.toList = true ∧ isUnmarked n.toList = true ∧
      isKey n.toList = true := by decide
  exact fun n member => Yaml.legibleName_iff.2 (each n member)

/-- A template is accepted if its JSON is as YAML wants it. -/
theorem accepted_iff {t : Template} :
    t.Accepted ↔ every isPermitted isPermitted t.toJson = true ∧
      every isUnmarked isUnmarked t.toJson = true ∧ isKeyed t.toJson = true := by
  have fields := fun n member => Yaml.legibleName_iff.1 (legibleName_field n member)
  rw [isKeyed, every_toJson fun n member => (fields n member).1,
    every_toJson fun n member => (fields n member).2.1,
    every_toJson fun n member => (fields n member).2.2]
  constructor
  · rintro ⟨texts, names⟩
    have parts := fun n member => Yaml.legibleName_iff.1 (names n member)
    exact ⟨⟨fun s member => (texts s member).1, fun n member => (parts n member).1⟩,
      ⟨fun s member => (texts s member).2, fun n member => (parts n member).2.1⟩,
      fun _ _ => rfl, fun n member => (parts n member).2.2⟩
  · rintro ⟨⟨permitted, permitted'⟩, ⟨unmarked, unmarked'⟩, -, keys⟩
    refine ⟨fun s member => ⟨permitted s member, unmarked s member⟩, fun n member => ?_⟩
    exact Yaml.legibleName_iff.2 ⟨permitted' n member, unmarked' n member, keys n member⟩

/-- In YAML the JSON of an accepted template is that of the template with its texts folded. -/
theorem Accepted.node {t : Template} (accepted : t.Accepted) :
    Yaml.node foldedText t.toJson = Yaml.node id (t.mapTexts foldedText).toJson :=
  node_toJson (fun n member => (legibleName_field n member).folded) fun n member =>
    (accepted.names n member).folded

end Template

/-! ## Catalogues -/

namespace Catalogue

def toJson (ts : List Template) : Json := .array (ts.map Template.toJson)

theorem textual (ts : List Template) : Textual (toJson ts) := by
  refine .array fun j member => ?_
  obtain ⟨t, -, rfl⟩ := List.mem_map.1 member
  exact t.textual

/-- The document of a catalogue is whole if all its templates are accepted. -/
theorem isWhole_iff {ts : List Template} :
    (Document.read (toJson ts).compact).isWhole = true ↔ ∀ t ∈ ts, t.Accepted := by
  have permitted : (toJson ts).compact.toList.all Yaml.isAllowed =
      every isPermitted isPermitted (toJson ts) := by
    rw [Json.compact, String.toList_ofList, Yaml.allowed_chars (textual ts)]
  rw [(Document.read_compact (textual ts)).1, permitted, Bool.and_eq_true, Bool.and_eq_true,
    isKeyed, toJson]
  simp only [Json.every_array, List.all_map, List.all_eq_true, Function.comp_apply,
    Template.accepted_iff, isKeyed]
  constructor
  · rintro ⟨h, h', h''⟩ t member
    exact ⟨h t member, h' t member, h'' t member⟩
  · exact fun h => ⟨fun t member => (h t member).1, fun t member => (h t member).2.1,
      fun t member => (h t member).2.2⟩

theorem node_toJson {ts : List Template} (accepted : ∀ t ∈ ts, t.Accepted) :
    node foldedText (toJson ts) = node id (toJson (ts.map (Template.mapTexts foldedText))) := by
  simp only [toJson, Yaml.node_array, List.map_map, Node.sequence.injEq, true_and]
  exact List.map_congr_left fun t member => (accepted t member).node

/-- A catalogue is decoded from the text of its JSON with its texts folded, if all its templates are
accepted. -/
theorem decode_compact_iff {ts us : List Template} :
    Yaml.decode Template.decodeList (toJson ts).compact = .ok us ↔
      (∀ t ∈ ts, t.Accepted) ∧ us = ts.map (Template.mapTexts foldedText) := by
  have decoded : ∀ accepted : ∀ t ∈ ts, t.Accepted,
      Yaml.decode Template.decodeList (toJson ts).compact =
        .ok (ts.map (Template.mapTexts foldedText)) := by
    intro accepted
    have whole := isWhole_iff.2 accepted
    -- The document shows the JSON of the folded catalogue, so that is what is decoded.
    have root := ((Document.read_compact (textual ts)).2 whole).trans (node_toJson accepted)
    unfold Yaml.decode
    simp only [Template.decodeList_shown (Document.form_shows _) root, whole]
    rfl
  constructor
  · intro read
    have accepted := isWhole_iff.1 (Yaml.yields_of_decode read).2
    exact ⟨accepted, Except.ok.inj (read.symm.trans (decoded accepted))⟩
  · rintro ⟨accepted, rfl⟩
    exact decoded accepted

/-- What was read was decoded, and all its templates have names. -/
theorem parse_eq_ok_iff {origin text : String} {ts : List Template} :
    parse origin text = .ok ts ↔ Yaml.decode Template.decodeList text = .ok ts ∧
      ∀ t ∈ ts, Text.isBlankText t.name = false := by
  unfold parse
  cases decoded : Yaml.decode Template.decodeList text with
  | error e => simp
  | ok us =>
    have named : (us.findIdx? fun t => Text.isBlankText t.name) = none ↔
        ∀ t ∈ us, Text.isBlankText t.name = false := by simp
    dsimp only
    split
    · rename_i index blank
      refine iff_of_false (fun h => nomatch h) ?_
      rintro ⟨same, all⟩
      rw [← Except.ok.inj same, ← named, blank] at all
      cases all
    · rename_i none_blank
      rw [Except.ok.injEq, Except.ok.injEq]
      exact ⟨fun same => ⟨same, same ▸ named.1 none_blank⟩, fun h => h.1⟩

theorem isBlankText_foldedText (s : String) :
    Text.isBlankText (foldedText s) = Text.isBlankText s := by
  rw [Bool.eq_iff_iff, Text.isBlankText_iff, Text.isBlankText_iff, foldedText, String.toList_ofList,
    Yaml.blank_folded_iff]

/-- A catalogue whose templates have names is read from the text of its JSON with its texts folded,
if all its templates are accepted; otherwise it is not read. -/
theorem parse_compact_eq_ok_iff (origin : String) {ts us : List Template}
    (named : ∀ t ∈ ts, Text.isBlankText t.name = false) :
    parse origin (toJson ts).compact = .ok us ↔
      (∀ t ∈ ts, t.Accepted) ∧ us = ts.map (Template.mapTexts foldedText) := by
  rw [parse_eq_ok_iff, decode_compact_iff]
  refine ⟨fun h => h.1, fun h => ⟨h, ?_⟩⟩
  rw [h.2, List.forall_mem_map]
  intro t member
  exact (isBlankText_foldedText t.name).trans (named t member)

/-- A catalogue whose templates have names is read from the text of its JSON as it was written
exactly if all of them are legible. -/
theorem parse_compact_iff (origin : String) {ts : List Template}
    (named : ∀ t ∈ ts, Text.isBlankText t.name = false) :
    parse origin (toJson ts).compact = .ok ts ↔ ∀ t ∈ ts, t.Legible := by
  rw [parse_compact_eq_ok_iff origin named, eq_comm (a := ts), map_eq_self_iff]
  simp only [Template.legible_iff]
  exact ⟨fun h t member => ⟨h.1 t member, h.2 t member⟩,
    fun h => ⟨fun t member => (h t member).1, fun t member => (h t member).2⟩⟩

/-- A template with quotes, breaks and a separator in its texts, and with a parameter. -/
def quotedTemplate : Template where
  name := "a\u2028b"
  displayName := "\x22c\x22\n\t"
  tags := ["--- "]
  source := some { kind := "git", location := "", parameters := .insert .empty "branch" "main" }

theorem parse_compact_quotedTemplate :
    (∀ t ∈ [quotedTemplate], Text.isBlankText t.name = false) ∧
      parse "catalogue" (toJson [quotedTemplate]).compact = .ok [quotedTemplate] := by
  have named : ∀ t ∈ [quotedTemplate], Text.isBlankText t.name = false := by decide
  have texts : ∀ s ∈ quotedTemplate.texts, isPermitted s.toList = true ∧
      isUnmarked s.toList = true ∧ foldedText s = s := by decide
  have names : ∀ n ∈ quotedTemplate.parameterNames, isPermitted n.toList = true ∧
      isUnmarked n.toList = true ∧ isKey n.toList = true := by decide
  refine ⟨named, (parse_compact_iff "catalogue" named).2 fun t member => ?_⟩
  obtain rfl := List.mem_singleton.1 member
  exact ⟨fun s member => Yaml.legible_iff.2 (texts s member),
    fun n member => Yaml.legibleName_iff.2 (names n member)⟩

/-- A catalogue in JSON is not always read: the delete character may not stand in YAML, and JSON
does not escape it. -/
theorem parse_compact_delete : ¬ ∀ (origin : String) (ts : List Template),
    (∀ t ∈ ts, Text.isBlankText t.name = false) →
      parse origin (toJson ts).compact = .ok ts := by
  intro always
  have named : ∀ t ∈ [{ name := "a\u007f" : Template }], Text.isBlankText t.name = false := by
    decide
  have read := always "catalogue" [{ name := "a\u007f" }] named
  have accepted := (decode_compact_iff.1 (parse_eq_ok_iff.1 read).1).1 _ (List.mem_singleton.2 rfl)
  have permitted := (accepted.texts "a\u007f" (by decide)).1
  exact absurd permitted (by decide)

end Catalogue

end ProjectPicker
