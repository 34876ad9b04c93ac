import Rollback.Engine.Registry
import Rollback.Json.Printer
import Rollback.Workload.Argument
import Rollback.Workload.Handle
import Rollback.Workload.Revision
import Rollback.Yaml.Printer

/-! What a run of the engine leaves behind: its report, the record of what it asked of its collaborators,
and the texts that are written for its outcomes. -/
namespace Rollback

inductive Deed where
  /-- It was rolled back, with the strategy's words for it. -/
  | rolledBack (description : String)
  /-- It points at the workload of this qualified name. -/
  | referenced (qualifiedName : String)
  deriving DecidableEq, Repr, Inhabited

structure Outcome where
  identity : Identity
  deed : Deed
  deriving DecidableEq, Repr, Inhabited

def Outcome.isRolledBack (o : Outcome) : Bool :=
  match o.deed with
  | .rolledBack _ => true
  | .referenced _ => false

structure Report where
  outcomes : List Outcome
  /-- The workloads found through pointers, in the order found. -/
  discovered : List WorkloadRef
  directErrors : List Failure
  indirectErrors : List Failure
  deriving DecidableEq, Repr, Inhabited

namespace Report

def empty : Report := ⟨[], [], [], []⟩

def isSuccess (r : Report) : Bool := r.directErrors.isEmpty && r.indirectErrors.isEmpty

def rolledBack (r : Report) : List Outcome := r.outcomes.filter Outcome.isRolledBack

/-- The outcomes, or the failures if there are any. -/
def result (r : Report) : Except Failures (List Outcome) :=
  match Failures.ofPhases? r.directErrors r.indirectErrors with
  | some failures => .error failures
  | none => .ok r.outcomes

end Report

/-- Something that the engine asked of a collaborator, with the answer where it decides what comes
next. -/
inductive Event where
  | resolve (request : Request)
  | verify (gvk : Gvk) (supported : Bool)
  | rollback (handle : Handle) (result : Except Cause String)
  | print (handle : Handle) (description : String) (written : Bool)

inductive OutputFormat where
  /-- One line with the name of the object and what happened to it. -/
  | name
  | json
  | yaml
  deriving DecidableEq, Repr, Inhabited

namespace OutputFormat

def ofText? : String → Option OutputFormat
  | "name" => some .name
  | "json" => some .json
  | "yaml" => some .yaml
  | _ => none

def record (format : OutputFormat) (dryRun : DryRun) (h : Handle) (description : String) : String :=
  match format with
  | .name => h.displayName ++ " " ++ description ++ dryRun.suffix ++ "\n"
  | .json => h.object.pretty ++ "\n"
  | .yaml => "---\n" ++ Yaml.render h.object

end OutputFormat

end Rollback
