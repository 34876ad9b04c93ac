import Rollback.Catalog.Basic
import Rollback.Manifest.Reference
import Rollback.Server.Location
import Rollback.Workload.Argument

/-! What a request asks the server for. An unknown type, a manifest of a type that is not served and a
namespace that does not match fail the request as a whole; a workload of a type that is not served
fails alone. -/
namespace Rollback

/-- One object of a resource, or all of them. -/
structure PlannedTarget where
  resource : Resource
  /-- Only if the resource has namespaces. -/
  ns? : Option String
  name? : Option String
  deriving DecidableEq, Repr, Inhabited

namespace PlannedTarget

/-- `kind.group/name`, or the type alone. -/
def label (t : PlannedTarget) : String :=
  match t.name? with
  | some name => t.resource.label ++ "/" ++ name
  | none => t.resource.label

def path (t : PlannedTarget) : String :=
  resourcePath t.resource.group t.resource.apiVersion t.resource.plural t.ns?

end PlannedTarget

namespace Plan

/-- The failure of a request because of its types. -/
def unresolved (fault : CatalogFault) : Failure := .resolution fault.cause

def targetOf (r : Resource) (ns : String) (name? : Option String) : PlannedTarget :=
  ⟨r, if r.namespaced then some ns else none, name?⟩

def ofArgument (c : Catalog) (ns : String) :
    Argument → Except Failure (Except Failure PlannedTarget)
  | .typed resource name? =>
    match c.resolve resource with
    | .ok r => .ok (.ok (targetOf r ns name?))
    | .error fault => .error (unresolved fault)
  | .workload ref =>
    match c.find? ref.gvk with
    | some r => .ok (.ok (targetOf r (ref.ns?.getD ns) (some ref.name)))
    | none => .ok (.error (.fetch ref.qualifiedName (CatalogFault.notServed ref.gvk).cause))

/-- The failure of a manifest in another namespace than the one that was asked for. -/
def namespaceMismatch (found wanted : String) : Failure :=
  .unresolved ("the namespace from the provided object " ++ Text.quote found
    ++ " does not match the namespace " ++ Text.quote wanted ++ ". You must pass '--namespace="
    ++ found ++ "' to perform this operation.")

def ofReference (c : Catalog) (request : Request) (m : Reference) :
    Except Failure (Except Failure PlannedTarget) :=
  match m.ns?.filter fun ns => request.enforceNamespace && ns != request.ns with
  | some ns => .error (namespaceMismatch ns request.ns)
  | none =>
    match c.find? m.gvk with
    | some r => .ok (.ok (targetOf r (m.ns?.getD request.ns) (some m.name)))
    | none => .error (unresolved (.notServed m.gvk))

/-- The targets of a request, first those of its arguments, then those of its manifests. -/
def ofRequest (c : Catalog) (request : Request) (manifests : List Reference) :
    Except Failure (List (Except Failure PlannedTarget)) := do
  if request.isEmpty then throw (.unresolved "required resource not specified")
  let args ← request.args.mapM (ofArgument c request.ns)
  let files ← manifests.mapM (ofReference c request)
  pure (args ++ files)

end Plan

end Rollback
