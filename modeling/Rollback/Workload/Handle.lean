import Rollback.Json.Basic
import Rollback.Text.Casing
import Rollback.Workload.Identity

/-! Objects as they were read from the server, and references to workloads that other objects
hold. -/
namespace Rollback

/-- One object with its coordinates. -/
structure Handle where
  gvk : Gvk
  ns? : Option String
  name : String
  /-- The object as it was read. -/
  object : Json
  deriving Repr, Inhabited

/-- `kind.group` in messages; the kind alone for the core group. -/
def Gvk.label (g : Gvk) : String :=
  let kind := Text.lowerCase g.kind
  if g.group = "" then kind else kind ++ "." ++ g.group

namespace Handle

def identity (h : Handle) : Identity := .of h.gvk h.ns? h.name

/-- `kind.group/name`. -/
def displayName (h : Handle) : String := h.gvk.label ++ "/" ++ h.name

end Handle

/-- A workload that another object names. -/
structure WorkloadRef where
  gvk : Gvk
  /-- The namespace of the object that names it. -/
  ns? : Option String
  name : String
  deriving DecidableEq, Repr, Inhabited

namespace WorkloadRef

def identity (r : WorkloadRef) : Identity := .of r.gvk r.ns? r.name

/-- `Kind.version.group/name`. -/
def qualifiedName (r : WorkloadRef) : String :=
  ".".intercalate [r.gvk.kind, r.gvk.version, r.gvk.group] ++ "/" ++ r.name

end WorkloadRef

end Rollback
