import Rollback.Proofs.Api.Workloads
import Rollback.Proofs.History.Template

/-! Pod templates that were read: they hold metadata and a specification only, and one that is read as
it is stays so without the label that a controller adds. -/
namespace Rollback.Api

open Json

namespace Schema

variable {fields : List Field} {v : Json} {name : String} {schema : Schema} {change : Json → Json}

/-- A change that keeps what a field is read as keeps the record, too. -/
theorem read_updateMember (unique : (fields.map (·.1)).Nodup)
    (field : (name, .optional, schema) ∈ fields)
    (keeps : ∀ u, schema.read u = some u → schema.read (change u) = some (change u))
    (null : ∀ u, (change u).isNull = u.isNull) (self : (record fields).read v = some v) :
    (record fields).read (Template.updateMember name change v) =
      some (Template.updateMember name change v) := by
  obtain ⟨members, out, rfl, _, same⟩ := read_record self
  have shaped := (read_record_iff unique).mp self
  refine (read_record_iff unique).mpr ⟨Template.keysIncrease_updateMember shaped.sorted name change,
    fun key other => ?_, fun key presence' schema' found => ?_⟩
  · rw [Template.lookup_updateMember, shaped.only key other]
    exact ite_self _
  · have decided := shaped.each key presence' schema' found
    rw [Template.lookup_updateMember]
    by_cases here : key = name
    · subst here
      cases List.inj_on_of_nodup_map unique found field rfl
      rw [if_pos rfl]
      cases held : lookup key members with
      | none => rfl
      | some u =>
        rw [held] at decided
        -- A null would have been read as a missing field.
        have present : u.isNull = false := by
          cases u with
          | null => cases schema <;> cases decided
          | _ => rfl
        rw [readField_of_read present] at decided
        have fits : schema.read u = some u := by simpa using decided
        rw [Option.map_some, readField_of_read ((null u).trans present), keeps u fits]
        rfl
    · rw [if_neg here]
      exact decided

end Schema

namespace PodTemplate

open Schema

theorem read_labels_without (name : String) {v : Json} (self : (table .text).read v = some v) :
    (table .text).read (Template.withoutMember name v) = some (Template.withoutMember name v) := by
  obtain ⟨_, entries, rfl⟩ := read_table_text.mp self
  exact read_table_text.mpr ⟨rfl, erase name entries, congrArg Json.object List.filter_map⟩

/-- A template that is read as it is stays so without the label. -/
theorem read_withoutHash {template : Json} (self : schema.read template = some template) :
    schema.read (Template.withoutHash template) = some (Template.withoutHash template) := by
  have labels : ("labels", Presence.optional, table .text) ∈ metadataSchema.fields := by
    simp [metadataSchema, Schema.fields, may]
  refine read_updateMember (by decide) List.mem_cons_self (fun metadata self => ?_)
    (Template.isNull_updateMember _ _) self
  exact read_updateMember unique_metadataFields labels (fun _ => read_labels_without _)
    (Template.isNull_withoutMember _) self

/-- A template that was read is an object with metadata and a specification only. -/
theorem get?_of_read {v template : Json} (read : schema.read v = some template) {key : String}
    (other : key ≠ "metadata" ∧ key ≠ "spec") : template.get? key = none :=
  get?_of_read_record_of_not_mem read (by simpa using other)

end PodTemplate

end Rollback.Api
