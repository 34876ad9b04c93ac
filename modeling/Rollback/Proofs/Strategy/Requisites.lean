import Rollback.Proofs.Api.Workloads
import Rollback.Strategy.Cluster

/-! What a workload must have for a rollback: the coordinates in its metadata, and for a deployment a
specification that is not paused. -/
namespace Rollback

open Api

namespace Deployment

variable {v : Json} {deployment : Deployment}

theorem unique_fields : (deploymentSchema.fields.map (·.1)).Nodup := by decide

/-- The name of a deployment is the text at its place in the document. -/
theorem name_of_ofJson? (read : ofJson? v = some deployment) :
    deployment.metadata.name? = v.textAt? ["metadata", "name"] := by
  obtain ⟨record, shaped, rfl⟩ := Option.map_eq_some_iff.mp read
  exact textAt?_metadata unique_fields shaped (by simp [metadataSchema, Schema.fields, may])

theorem uid_of_ofJson? (read : ofJson? v = some deployment) :
    deployment.metadata.uid? = v.textAt? ["metadata", "uid"] := by
  obtain ⟨record, shaped, rfl⟩ := Option.map_eq_some_iff.mp read
  exact textAt?_metadata unique_fields shaped (by simp [metadataSchema, Schema.fields, may])

theorem annotations_of_ofJson? (read : ofJson? v = some deployment) (key : String) :
    (lookup key deployment.metadata.annotations).map Json.string =
      v.at? ["metadata", "annotations", key] := by
  obtain ⟨record, shaped, rfl⟩ := Option.map_eq_some_iff.mp read
  exact at?_annotations unique_fields shaped key

theorem ofRecord_put_annotations (m : Json) (entries : List (String × String)) :
    Metadata.ofRecord (m.put ["annotations"] (.ofTexts entries)) =
      { Metadata.ofRecord m with annotations := entries } := by
  simp [Metadata.ofRecord, Json.textAt?, Json.textMembers_ofTexts]

theorem specOf_put_template (spec template : Json) :
    specOf (spec.put ["template"] template) = { specOf spec with template := template } := by
  simp [specOf]

/-- With other annotations a deployment that has metadata is the same but for them. -/
theorem ofJson?_put_annotations (read : ofJson? v = some deployment) {uid : String}
    (known : deployment.metadata.uid? = some uid) (entries : List (String × String)) :
    ofJson? (v.put ["metadata", "annotations"] (.ofTexts entries)) =
      some { deployment with metadata := { deployment.metadata with annotations := entries } } := by
  obtain ⟨record, shaped, rfl⟩ := Option.map_eq_some_iff.mp read
  obtain ⟨got, _⟩ | ⟨u, m, given, got, readMetadata⟩ := metadata_of_read unique_fields shaped
  · rw [metadataOf, got] at known
    cases known
  · have isAnnotations : ("annotations", .optional, .table .text) ∈ metadataSchema.fields := by
      simp [metadataSchema, Schema.fields, may]
    have isMetadata : ("metadata", .required, metadataSchema) ∈ deploymentSchema.fields := by
      simp [deploymentSchema, appsObject, Schema.fields]
    have inner : metadataSchema.read (u.put ["annotations"] (.ofTexts entries)) =
        some (m.put ["annotations"] (.ofTexts entries)) :=
      Schema.read_put unique_metadataFields readMetadata isAnnotations rfl
        (Schema.read_table_text.mpr ⟨rfl, entries, rfl⟩)
    have outer : deploymentSchema.read (v.put ["metadata", "annotations"] (.ofTexts entries)) =
        some (record.put ["metadata", "annotations"] (.ofTexts entries)) :=
      Schema.read_put unique_fields shaped isMetadata rfl (by rw [given, got]; exact inner)
    rw [ofJson?, outer]
    simp [metadataOf, got, ofRecord_put_annotations]

/-- With another template that is read as it is a deployment is the same but for that. -/
theorem ofJson?_put_template (read : ofJson? v = some deployment) {spec : DeploymentSpec}
    (wanted : deployment.spec? = some spec) {template : Json}
    (self : PodTemplate.schema.read template = some template) :
    ofJson? (v.put ["spec", "template"] template) =
      some { deployment with spec? := some { spec with template := template } } := by
  obtain ⟨record, shaped, rfl⟩ := Option.map_eq_some_iff.mp read
  obtain ⟨inside, got, rfl⟩ := Option.map_eq_some_iff.mp wanted
  have isTemplate : ("template", .required, PodTemplate.schema) ∈ deploymentSpec := by
    simp [deploymentSpec, may, must]
  have isSpec : ("spec", .optional, .record deploymentSpec) ∈ deploymentSchema.fields := by
    simp [deploymentSchema, appsObject, Schema.fields]
  have unique : (deploymentSpec.map (·.1)).Nodup := by decide
  obtain ⟨u, given, readSpec⟩ := Schema.source_of_readField
    ((Schema.readField_of_read_record unique_fields shaped isSpec).trans (congrArg some got))
  have present : template.isNull = false := by
    obtain ⟨members, _, rfl, _⟩ := Schema.read_record self
    rfl
  have inner : (Schema.record deploymentSpec).read (u.put ["template"] template) =
      some (inside.put ["template"] template) :=
    Schema.read_put unique readSpec isTemplate present self
  have outer : deploymentSchema.read (v.put ["spec", "template"] template) =
      some (record.put ["spec", "template"] template) :=
    Schema.read_put unique_fields shaped isSpec rfl (by rw [given, got]; exact inner)
  rw [ofJson?, outer]
  simp [metadataOf, got, specOf_put_template]

end Deployment

/-- A deployment can be rolled back when it has a namespace, a uid and a specification that is not
paused. -/
theorem DeploymentRollback.ready_eq_ok {h : Handle} {d : Ready} :
    ready h = .ok d ↔
      ∃ deployment, Deployment.ofJson? h.object = some deployment ∧
        d.name = deployment.metadata.name?.getD h.name ∧ h.ns? = some d.ns ∧
          deployment.metadata.uid? = some d.uid ∧ deployment.spec? = some d.spec ∧
            d.spec.paused = false ∧ d.annotations = deployment.metadata.annotations := by
  constructor
  · intro found
    unfold ready at found
    cases read : Deployment.ofJson? h.object with
    | none =>
      simp only [read] at found
      cases found
    | some deployment =>
      cases placed : h.ns? with
      | none =>
        simp only [read, placed] at found
        cases found
      | some ns =>
        cases known : deployment.metadata.uid? with
        | none =>
          simp only [read, placed, known] at found
          cases found
        | some uid =>
          cases wanted : deployment.spec? with
          | none =>
            simp only [read, placed, known, wanted] at found
            cases found
          | some spec =>
            simp only [read, placed, known, wanted] at found
            by_cases paused : spec.paused = true
            · simp only [if_pos paused] at found
              cases found
            · simp only [if_neg paused] at found
              cases found
              exact ⟨deployment, rfl, rfl, rfl, known, wanted, by simpa using paused, rfl⟩
  · rintro ⟨deployment, read, name, placed, known, wanted, running, annotations⟩
    obtain ⟨_, _, _, spec, _⟩ := d
    dsimp only at name placed known wanted running annotations
    subst name annotations
    simp only [ready, read, placed, known, wanted, running]
    rfl

/-- Every other workload has to say its coordinates itself. -/
theorem RevisionRollback.coordinates_eq_ok {object : Json} {place : Coordinates} :
    coordinates object = .ok place ↔
      object.textAt? ["metadata", "namespace"] = some place.ns ∧
        object.textAt? ["metadata", "name"] = some place.name ∧
          object.textAt? ["metadata", "uid"] = some place.uid := by
  constructor
  · intro found
    unfold coordinates at found
    cases space : object.textAt? ["metadata", "namespace"] with
    | none =>
      simp only [space] at found
      cases found
    | some ns =>
      cases named : object.textAt? ["metadata", "name"] with
      | none =>
        simp only [space, named] at found
        cases found
      | some name =>
        cases known : object.textAt? ["metadata", "uid"] with
        | none =>
          simp only [space, named, known] at found
          cases found
        | some uid =>
          simp only [space, named, known] at found
          cases found
          exact ⟨rfl, rfl, rfl⟩
  · rintro ⟨space, named, known⟩
    simp only [coordinates, space, named, known]
    rfl

end Rollback
