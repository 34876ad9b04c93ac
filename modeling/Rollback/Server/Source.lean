import Rollback.Catalog.Discovery
import Rollback.Engine.Run
import Rollback.Server.LiveObject
import Rollback.Server.Plan

/-! Reading the objects that a request asks for from the server. Manifests only tell which objects are
meant; what the server holds is what counts. -/
namespace Rollback.Server

variable {σ : Type} (server : Server σ)

def fetchTarget (t : PlannedTarget) : StateM (Session σ) (List Fetched) := do
  let failed (cause : Cause) : List Fetched := [.error (.fetch t.label cause)]
  match t.name? with
  | some name =>
    let request? := HttpRequest.getAt (t.path ++ "/" ++ name)
    match ← (server.fetch ("get " ++ t.label) request? LiveObject.ofJson?).run with
    | .ok o => pure [.ok (o.toHandle t.resource t.ns?)]
    | .error cause => pure (failed cause)
  | none =>
    let request? := HttpRequest.listAt t.path none
    match ← (server.fetch ("list " ++ t.label) request? (Api.readList LiveObject.ofJson?)).run with
    | .ok objects => pure (objects.map fun o => .ok (o.toHandle t.resource t.ns?))
    | .error cause => pure (failed cause)

def fetchPlanned (planned : Except Failure PlannedTarget) : StateM (Session σ) (List Fetched) :=
  match planned with
  | .ok t => fetchTarget server t
  | .error failure => pure [.error failure]

def loadManifests (request : Request) : StateM (Session σ) (Except Manifest.LoadFault (List Reference)) :=
    fun session =>
  let limit := server.settings.manifestLimit
  match Manifest.load limit request.recursive session.manifests request.filenames with
  | .ok (refs, manifests) => (.ok refs, { session with manifests := manifests })
  | .error fault => (.error fault, session)

def resolve (request : Request) : StateM (Session σ) (Except Failure (List Fetched)) := do
  match ← loadManifests server request with
  | .error fault => pure (.error fault.failure)
  | .ok manifests =>
    match ← (catalog server).run with
    | .error fault => pure (.error (Plan.unresolved fault))
    | .ok c =>
      match Plan.ofRequest c request manifests with
      | .error failure => pure (.error failure)
      | .ok planned => do
        let found ← planned.mapM (fetchPlanned server)
        pure (.ok found.flatten)

def verify (gvk : Gvk) : StateM (Session σ) (Except Cause Unit) := do
  match ← (catalog server).run with
  | .error fault => pure (.error fault.cause)
  | .ok c => pure (c.checkDryRun gvk)

end Rollback.Server
