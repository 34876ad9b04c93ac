import Rollback.Engine.Report
import Rollback.Server.Source
import Rollback.Strategy.DeploymentRollback
import Rollback.Strategy.RevisionRollback

/-! The engine at work on a server: which kinds of workload can be rolled back, and how. -/
namespace Rollback

namespace Server

variable {σ : Type} (server : Server σ)

/-- The strategy of each kind of workload: deployments have theirs, the other kinds keep controller
revisions. -/
def strategies : Registry (Strategy (Session σ)) :=
  let deployment := DeploymentRollback.strategy server
  let builtIn := RevisionRollback.strategy server .strategic
  let custom := RevisionRollback.strategy server .merge
  Registry.empty.register "apps" "Deployment" deployment
    |>.register "apps" "DaemonSet" builtIn
    |>.register "apps" "StatefulSet" builtIn
    |>.register "apps.kruise.io" "CloneSet" custom
    |>.register "apps.kruise.io" "StatefulSet" custom
    |>.register "apps.kruise.io" "DaemonSet" custom

end Server

abbrev Writer (σ : Type) := String → StateM (Session σ) (Except Cause Unit)

def Session.write {σ : Type} : Writer σ := fun text => do
  modify fun session => { session with output := session.output ++ text }
  pure (.ok ())

def Server.collaborators {σ : Type} (server : Server σ) (writer : Writer σ)
    (format : OutputFormat) (dryRun : DryRun) : Collaborators (Session σ) :=
  { resolve := server.resolve, verify := server.verify, strategies := server.strategies,
    print := fun h description => writer (format.record dryRun h description) }

def Server.undo {σ : Type} (server : Server σ) (writer : Writer σ) (format : OutputFormat)
    (o : Options) (request : Request) (session : Session σ) : Engine.Ended (Session σ) :=
  Engine.run (server.collaborators writer format o.dryRun) o request session

end Rollback
