import Rollback.Api.PodTemplate
import Rollback.History.LabelSelector

/-! The objects in which the history of a workload is kept, and the deployments that they belong to,
as far as a rollback looks at them. -/
namespace Rollback

open Api Schema

def Requirement.ofRecord (v : Json) : Requirement :=
  { key := (v.textAt? ["key"]).getD "",
    operator := .ofText ((v.textAt? ["operator"]).getD ""),
    values := textItems ((v.get? "values").getD .null) }

namespace LabelSelector

def ofRecord (v : Json) : LabelSelector :=
  { labels := textMembers ((v.get? "matchLabels").getD .null),
    requirements :=
      (((v.get? "matchExpressions").bind Json.items?).getD []).map Requirement.ofRecord }

def ofJson? (v : Json) : Option LabelSelector :=
  (PodTemplate.labelSelectorSchema.read v).map ofRecord

end LabelSelector

namespace Api

/-- The shape of an object of the `apps/v1` API. -/
def appsObject (kind : String) (fields : List Field) : Schema :=
  .record ([("apiVersion", .optional, .word "apps/v1"), ("kind", .optional, .word kind),
    ("metadata", .required, metadataSchema)] ++ fields)

def condition : List Field :=
  may .text ["message", "reason"] ++ must .text ["status", "type"]
    ++ may (.time false) ["lastTransitionTime"]

def metadataOf (v : Json) : Metadata := .ofRecord ((v.get? "metadata").getD .null)

def deploymentSpec : List Field :=
  may int32 ["minReadySeconds", "progressDeadlineSeconds", "replicas", "revisionHistoryLimit"]
    ++ may .bool ["paused"] ++ must PodTemplate.labelSelectorSchema ["selector"]
    ++ must PodTemplate.schema ["template"]
    ++ [("strategy", .optional, .record ([("rollingUpdate", .optional, .record
        (may .integerOrText ["maxSurge", "maxUnavailable"]))] ++ may .text ["type"]))]

def deploymentStatus : List Field :=
  may int32 ["availableReplicas", "collisionCount", "readyReplicas", "replicas",
      "unavailableReplicas", "updatedReplicas"]
    ++ may int64 ["observedGeneration"]
    ++ may (.list (.record (condition ++ may (.time false) ["lastUpdateTime"]))) ["conditions"]

def deploymentSchema : Schema :=
  appsObject "Deployment" [("spec", .optional, .record deploymentSpec),
    ("status", .optional, .record deploymentStatus)]

end Api

structure DeploymentSpec where
  paused : Bool
  selector : LabelSelector
  template : Json
  deriving Repr

structure Deployment where
  metadata : Metadata
  spec? : Option DeploymentSpec
  deriving Repr

namespace Deployment

def specOf (v : Json) : DeploymentSpec :=
  { paused := match v.get? "paused" with
      | some (.bool b) => b
      | _ => false,
    selector := .ofRecord ((v.get? "selector").getD .null),
    template := (v.get? "template").getD .null }

def ofJson? (v : Json) : Option Deployment :=
  (deploymentSchema.read v).map fun v => ⟨metadataOf v, (v.get? "spec").map specOf⟩

end Deployment

namespace Api

def replicaSetSpec : List Field :=
  may int32 ["minReadySeconds", "replicas"] ++ must PodTemplate.labelSelectorSchema ["selector"]
    ++ may PodTemplate.schema ["template"]

def replicaSetStatus : List Field :=
  may int32 ["availableReplicas", "fullyLabeledReplicas", "readyReplicas"] ++ must int32 ["replicas"]
    ++ may int64 ["observedGeneration"] ++ may (.list (.record condition)) ["conditions"]

def replicaSetSchema : Schema :=
  appsObject "ReplicaSet" [("spec", .optional, .record replicaSetSpec),
    ("status", .optional, .record replicaSetStatus)]

def controllerRevisionSchema : Schema :=
  appsObject "ControllerRevision" (may .any ["data"] ++ must int64 ["revision"])

end Api

structure ReplicaSet where
  metadata : Metadata
  template? : Option Json
  deriving Repr

def ReplicaSet.ofJson? (v : Json) : Option ReplicaSet :=
  (replicaSetSchema.read v).map fun v => ⟨metadataOf v, v.at? ["spec", "template"]⟩

structure ControllerRevision where
  metadata : Metadata
  revision : Int
  data? : Option Json
  deriving Repr

def ControllerRevision.ofJson? (v : Json) : Option ControllerRevision :=
  (controllerRevisionSchema.read v).map fun v =>
    { metadata := metadataOf v, data? := v.get? "data",
      revision := match v.get? "revision" with
        | some (.integer n) => n
        | _ => 0 }

namespace Api

/-- The items of a list document, each read by `item?`. A list has metadata, and items that may be
null. -/
def readList {α : Type} (item? : Json → Option α) (v : Json) : Option (List α) := do
  let _ ← (v.get? "metadata").bind listMetadataSchema.read
  match v.get? "items" with
  | some .null => some []
  | some (.array items) => items.mapM item?
  | _ => none

end Api

end Rollback
