import Plantilla.Proofs.Reading
import Plantilla.Proofs.Searching
import Plantilla.Report.Render
/-!
# Decoding — a report read back from JSON

The JSON of a report is read back by any reader of the standard notation, whatever texts the report quotes, and its
fields are those of the report (`json_read_back`).
-/
namespace Plantilla

namespace Report

/-- What the fields of an object say of a diagnostic of a source.  No key stands in it twice, so it does not matter
which of two a reader would take. -/
structure Describes (source : String) (o : Json) (d : Diagnostic) : Prop where
  keys : ∃ fields, o = .object fields ∧ (fields.map Prod.fst).Nodup
  kind : o.field? "kind" = some (.string d.stage.name)
  message : o.field? "message" = some (.string d.message)
  line : o.field? "line" = some (.integer (Position.ofOffset source d.span.start).line)
  column : o.field? "column" = some (.integer (Position.ofOffset source d.span.start).column)
  expected : o.field? "expected" =
    if d.expected = [] then none else some (.array (d.expected.map fun k => .string k.name))

theorem toJson_entry_of_none {e : Entry} (h : e.expected = []) :
    e.toJson = .object [("kind", .string e.stage.name), ("message", .string e.message),
      ("line", .integer e.position.line), ("column", .integer e.position.column)] := by
  rw [Entry.toJson, if_pos h, List.append_nil]

theorem toJson_entry_of_some {e : Entry} (h : e.expected ≠ []) :
    e.toJson = .object [("kind", .string e.stage.name), ("message", .string e.message),
      ("line", .integer e.position.line), ("column", .integer e.position.column),
      ("expected", .array (e.expected.map fun k => .string k.name))] := by
  rw [Entry.toJson, if_neg h]
  rfl

theorem isWhole_entry (e : Entry) : e.toJson.IsWhole := by
  by_cases h : e.expected = []
  · simp [toJson_entry_of_none h, Json.IsWhole, Json.FieldsWhole]
  · simp [toJson_entry_of_some h, Json.IsWhole, Json.FieldsWhole, Json.allWhole_iff]

theorem isWhole_toJson (source : String) (r : Report) : (r.toJson source).IsWhole := by
  have hentries : ∀ v ∈ (r.entries source).map Entry.toJson, v.IsWhole := by
    intro v hv
    obtain ⟨e, _, rfl⟩ := List.mem_map.1 hv
    exact isWhole_entry e
  have hdiagnostics := (Json.allWhole_iff _).2 hentries
  obtain ⟨verdict, template, ds⟩ := r
  cases template <;> simpa [toJson, Json.IsWhole, Json.FieldsWhole] using hdiagnostics

theorem describes_entry (source : String) (d : Diagnostic) :
    Describes source (Entry.mk d.stage d.message (Position.ofOffset source d.span.start) d.expected).toJson d := by
  by_cases h : d.expected = []
  · rw [toJson_entry_of_none (e := ⟨_, _, _, d.expected⟩) h]
    exact ⟨⟨_, rfl, by simp⟩, rfl, rfl, rfl, rfl, by rw [if_pos h]; rfl⟩
  · rw [toJson_entry_of_some (e := ⟨_, _, _, d.expected⟩) h]
    exact ⟨⟨_, rfl, by simp⟩, rfl, rfl, rfl, rfl, by rw [if_neg h]; rfl⟩

/-- **The JSON of a report is read back as the report.** -/
theorem json_read_back (source : String) (showExpected : Bool) (r : Report) :
    ∃ text v, r.render source showExpected .json = .ok text ∧ Json.parse? text = some v ∧
      (∃ fields, v = .object fields ∧ (fields.map Prod.fst).Nodup) ∧
      v.field? "verdict" = some (.string r.verdict.name) ∧
      v.field? "accepted" = some (.bool (r.verdict = .accepted)) ∧
      v.field? "message" = some (.string r.verdict.message) ∧
      v.field? "template" = some (r.template.elim .null .string) ∧
      ∃ items, v.field? "diagnostics" = some (.array items) ∧ List.Forall₂ (Describes source) items r.diagnostics := by
  have hitems : List.Forall₂ (Describes source) ((r.entries source).map Entry.toJson) r.diagnostics := by
    rw [entries_eq, List.map_map, List.forall₂_map_left_iff, List.forall₂_same]
    exact fun d _ => describes_entry source d
  have htemplate : (r.toJson source).field? "template" = some (r.template.elim .null .string) := by
    obtain ⟨verdict, template, ds⟩ := r
    cases template <;> rfl
  exact ⟨_, r.toJson source, rfl, Json.parse?_pretty (isWhole_toJson source r), ⟨_, rfl, by simp⟩, rfl, rfl, rfl,
    htemplate, _, rfl, hitems⟩

end Report
end Plantilla
