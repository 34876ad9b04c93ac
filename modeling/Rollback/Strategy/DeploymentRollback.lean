import Rollback.Api.Workloads
import Rollback.Engine.Run
import Rollback.History.Template
import Rollback.History.Revisions
import Rollback.Server.Session
import Rollback.Yaml.Printer

/-! Rolling a deployment back: its history is the replica sets that it owns, numbered by an annotation.
The template and the annotations of the chosen one replace those of the deployment. -/
namespace Rollback.DeploymentRollback

open Api

def revisionAnnotation : String := "deployment.kubernetes.io/revision"

/-- The revision of a replica set; one without a readable number has none. -/
def revision? (rs : ReplicaSet) : Option Int :=
  (lookup revisionAnnotation rs.metadata.annotations).bind Text.int64?

def history (items : List ReplicaSet) (uid : String) : History ReplicaSet :=
  (items.filter fun rs => rs.metadata.isControlledBy uid).filterMap fun rs =>
    (revision? rs).map (·, rs)

/-- An object that replaces another as a whole. -/
def replacing : Json → Json
  | .object members => .object (insert "$patch" (.string "replace") members)
  | v => v

/-- The change that puts a template and annotations in place of those that are there. -/
def patch (template : Json) (annotations : Annotations.Map) : Json :=
  let annotations := Json.object (annotations.map fun (key, value) => (key, .string value))
  .mk [("metadata", .mk [("annotations", replacing annotations)]),
    ("spec", .mk [("template", replacing template)])]

structure Ready where
  name : String
  ns : String
  uid : String
  spec : DeploymentSpec
  annotations : Annotations.Map

/-- What the deployment of a handle lacks for a rollback, or everything that it needs. -/
def ready (h : Handle) : Except Cause Ready := do
  let some d := Deployment.ofJson? h.object
    | throw ⟨"decoding deployment", [Json.faultMessage]⟩
  let name := d.metadata.name?.getD h.name
  let lacks (part : String) : Cause :=
    .plain ("deployment " ++ Text.quote name ++ " has no " ++ part)
  let some ns := h.ns? | throw (lacks "namespace")
  let some uid := d.metadata.uid? | throw (lacks "uid")
  let some spec := d.spec? | throw (lacks "spec")
  if spec.paused then
    throw (.plain ("you cannot rollback a paused deployment; resume it first with 'rewindctl rollout "
      ++ "resume deployment/" ++ name ++ "' and try again"))
  pure ⟨name, ns, uid, spec, d.metadata.annotations⟩

def revisionCause (name : String) : RevisionFault → Cause
  | .noPrevious => .plain ("no rollout history found for deployment " ++ Text.quote name)
  | fault => .plain fault.message

def choose (d : Ready) (items : List ReplicaSet) (selector : RevisionSelector) :
    Except Cause (Int × ReplicaSet × Json) :=
  match (history items d.uid).select selector with
  | .error fault => .error (revisionCause d.name fault)
  | .ok (number, rs) =>
    match rs.template? with
    | some template => .ok (number, rs, Template.withoutHash template)
    | none => .error (.plain s!"replicaset for revision {number} has no pod template")

variable {σ : Type} (server : Server σ)

/-- The path of objects of the `apps/v1` API in a namespace. -/
def appsPath (plural ns : String) : String := resourcePath "apps" "apps/v1" plural (some ns)

/-- Rolls a deployment back. A client dry run shows the template instead. -/
def act (h : Handle) (selector : RevisionSelector) (dryRun : DryRun) : Act σ String := do
  let d ← ready h
  let labels ← d.spec.selector.render.mapError fun fault => Cause.plain fault.message
  let items ← server.fetch "list replicasets"
    (HttpRequest.listAt (appsPath "replicasets" d.ns) (some labels)) (readList ReplicaSet.ofJson?)
  let (number, rs, wanted) ← choose d items selector
  if Template.agree d.spec.template wanted then return Template.skipped number
  if dryRun = .client then return Yaml.render wanted
  let body := patch wanted (Annotations.rolledBack d.annotations rs.metadata.annotations)
  let _ ← server.fetch "patch deployment"
    (HttpRequest.patchAt (appsPath "deployments" d.ns ++ "/" ++ d.name) (dryRun == .server) .strategic
      body) Deployment.ofJson?
  return Template.rolledBack

def strategy : Strategy (Session σ) := fun h selector dryRun => (act server h selector dryRun).run

end Rollback.DeploymentRollback
