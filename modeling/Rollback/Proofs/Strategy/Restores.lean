import Rollback.Proofs.Api.PodTemplate
import Rollback.Proofs.History.Revisions
import Rollback.Proofs.Strategy.Choices

/-! The body of a change restores the template that was decided on: a deployment gets it with the mark
that it replaces the old one, a built-in type gets the stored data that hold it, and a custom type
gets a merge patch that leads to it. -/
namespace Rollback

open Api Json

/-- The body of a change puts the template in place. -/
def Procedure.Restores (h : Handle) (template body : Json) : Procedure → Prop
  | replicaSets => ∃ members, template = .object members ∧ lookup "$patch" members = none ∧
      body.at? ["spec", "template"] = some (.object (insert "$patch" (.string "replace") members))
  | revisions .strategic => ∃ stored, body.at? ["spec", "template"] = some stored ∧
      template = Template.withoutMember "$patch" stored
  | revisions .merge => ∃ change, body.at? ["spec", "template"] = some change ∧
      Same (applyPatch (RevisionRollback.liveTemplate h) change).withoutNulls template.withoutNulls

theorem ReplicaSet.unique_fields : (replicaSetSchema.fields.map (·.1)).Nodup := by decide

/-- The template of a replica set that was read was read itself, from its place in the document. -/
theorem ReplicaSet.template_read {v template : Json} {rs : ReplicaSet}
    (read : ReplicaSet.ofJson? v = some rs) (found : rs.template? = some template) :
    ∃ source, v.at? ["spec", "template"] = some source ∧
      PodTemplate.schema.read source = some template := by
  obtain ⟨record, shaped, rfl⟩ := Option.map_eq_some_iff.mp read
  obtain ⟨spec, gotSpec, inside⟩ := Option.bind_eq_some_iff.mp found
  rw [at?_singleton] at inside
  have isSpec : ("spec", .optional, .record replicaSetSpec) ∈ replicaSetSchema.fields := by
    simp [replicaSetSchema, appsObject, Schema.fields]
  have isTemplate : ("template", .optional, PodTemplate.schema) ∈ replicaSetSpec := by
    simp [replicaSetSpec, may, must]
  obtain ⟨specSource, givenSpec, readSpec⟩ := Schema.source_of_readField
    ((Schema.readField_of_read_record unique_fields shaped isSpec).trans (congrArg some gotSpec))
  obtain ⟨source, givenTemplate, readTemplate⟩ := Schema.source_of_readField
    ((Schema.readField_of_read_record (by decide) readSpec isTemplate).trans (congrArg some inside))
  exact ⟨source, by simp [at?, givenSpec, givenTemplate], readTemplate⟩

/-- The template that a deployment goes back to has no mark of its own. -/
theorem DeploymentRollback.template_of_choose {d : Ready} {items : List ReplicaSet}
    {selector : RevisionSelector} {number : Int} {rs : ReplicaSet} {template : Json}
    (chosen : choose d items selector = .ok (number, rs, template))
    (read : ∀ item ∈ items, ∃ v, ReplicaSet.ofJson? v = some item) :
    ∃ members, template = .object members ∧ lookup "$patch" members = none := by
  obtain ⟨selected, template⟩ := choose_eq_ok.mp chosen
  obtain ⟨stored, found, rfl⟩ := Option.map_eq_some_iff.mp template
  obtain ⟨listed, _⟩ := mem_history.mp (History.mem_of_select selected)
  obtain ⟨v, readItem⟩ := read rs listed
  obtain ⟨source, _, readTemplate⟩ := ReplicaSet.template_read readItem found
  obtain ⟨_, out, _, _, rfl⟩ := Schema.read_record readTemplate
  exact ⟨_, rfl, (Template.get?_withoutHash _ _ (by decide)).trans
    (PodTemplate.get?_of_read readTemplate (by decide))⟩

/-- The chosen revision's template is the stored one without its mark. -/
theorem RevisionRollback.chosen_of_choose {items : List ControllerRevision} {uid : String}
    {selector : RevisionSelector} {chosen : Chosen} (selected : choose items uid selector = .ok chosen) :
    ∃ revision ∈ items, revision.data? = some chosen.data ∧
      ∃ stored, chosen.data.at? ["spec", "template"] = some stored ∧
        chosen.template = Template.withoutMember "$patch" stored := by
  obtain ⟨revision, chose, data, template⟩ := choose_eq_ok.mp selected
  obtain ⟨listed, _⟩ := mem_history.mp (History.mem_of_select chose)
  obtain ⟨stored, found, same⟩ := Option.map_eq_some_iff.mp template
  exact ⟨revision, listed, data, stored, found, same.symm⟩

/-- The data of a revision that was read are in order. -/
theorem ControllerRevision.sorted_data {v data : Json} {revision : ControllerRevision}
    (read : ControllerRevision.ofJson? v = some revision) (sorted : v.Sorted)
    (found : revision.data? = some data) : data.Sorted := by
  obtain ⟨record, shaped, rfl⟩ := Option.map_eq_some_iff.mp read
  have isData : ("data", .optional, .any) ∈ controllerRevisionSchema.fields := by
    simp [controllerRevisionSchema, appsObject, Schema.fields, may, must]
  obtain ⟨stored, got, readData⟩ := Schema.source_of_readField
    ((Schema.readField_of_read_record (by decide) shaped isData).trans (congrArg some found))
  obtain rfl := Option.some.inj readData
  exact sorted.of_get? got

theorem Procedure.restores_of_decide {σ : Type} {p : Procedure} {server : Server σ} {h : Handle}
    {selector : RevisionSelector} {s t : Session σ} {template body : Json} {kind : PatchKind}
    {path : String} (sorted : h.object.Sorted)
    (decided : (p.decide server h selector).run s = (.ok (.restore template kind path body), t)) :
    p.Restores h template body := by
  cases p with
  | replicaSets =>
    obtain ⟨d, items, number, rs, _, chosen, ⟨_, document, parsed, read⟩, _, _, rfl⟩ :=
      DeploymentRollback.decide_restore decided
    have readItems (item : ReplicaSet) (listed : item ∈ items) :
        ∃ v, ReplicaSet.ofJson? v = some item := by
      obtain ⟨v, _, readItem⟩ := mem_of_readList read (sorted_of_ofText? parsed) listed
      exact ⟨v, readItem⟩
    obtain ⟨members, rfl, unmarked⟩ := DeploymentRollback.template_of_choose chosen readItems
    exact ⟨members, rfl, unmarked, rfl⟩
  | revisions kind =>
    obtain ⟨place, items, chosen, _, selected, ⟨_, document, parsed, read⟩, rfl, _, _, rfl⟩ :=
      RevisionRollback.decide_restore decided
    obtain ⟨revision, listed, hasData, stored, found, template⟩ :=
      RevisionRollback.chosen_of_choose selected
    cases kind with
    | strategic => exact ⟨stored, found, template⟩
    | merge =>
      refine ⟨_, rfl, same_applyPatch_diff _ _ ?_ ?_⟩
      · unfold RevisionRollback.liveTemplate
        cases live : h.object.at? ["spec", "template"] with
        | none => trivial
        | some v => exact sorted.of_at? live
      · obtain ⟨v, sortedItem, readItem⟩ := mem_of_readList read (sorted_of_ofText? parsed) listed
        have data := ControllerRevision.sorted_data readItem sortedItem hasData
        exact template ▸ Template.sorted_withoutMember (data.of_at? found) "$patch"

end Rollback
