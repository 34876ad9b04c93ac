import Rollback.Failure
import Rollback.Workload.Handle

/-! Telling workloads from the objects that only point at one. A `Rollout` names its workload in one
of two places, by the version of its API. -/
namespace Rollback

/-- What a visited object stands for. -/
inductive Target where
  /-- It is a workload itself. -/
  | workload (identity : Identity)
  /-- It points at one. -/
  | pointer (ref : WorkloadRef)
  deriving DecidableEq, Repr

def rolloutGroup : String := "rollouts.kruise.io"

def rolloutKind : String := "Rollout"

def Gvk.isPointer (g : Gvk) : Bool := g.group == rolloutGroup && g.kind == rolloutKind

inductive PointerFault where
  | noObject
  | noSpec
  | noReference
  | noField (name : String)
  deriving DecidableEq, Repr

def PointerFault.message : PointerFault → String
  | .noObject => "object not found"
  | .noSpec => "missing spec"
  | .noReference => "unsupported version of Rollout: no workloadRef"
  | .noField name => "workloadRef." ++ name ++ " is missing"

/-- The reference inside a spec: under `objectRef` when that has a `workloadRef`, else in the spec
itself. Only an object counts. -/
def workloadRef? (spec : Json) : Option Json :=
  let found := match spec.at? ["objectRef", "workloadRef"] with
    | some v => some v
    | none => spec.get? "workloadRef"
  found.filter Json.isObject

/-- A field of the reference that is a text with something in it. -/
def fieldOf (ref : Json) (name : String) : Except PointerFault String :=
  match ((ref.get? name).bind Json.text?).filter (· ≠ "") with
  | some text => .ok text
  | none => .error (.noField name)

/-- The `apiVersion`, kind and name in an object's reference. -/
def readPointer (object : Json) : Except PointerFault (String × String × String) := do
  if object.isNull then throw .noObject
  let some spec := object.get? "spec" | throw .noSpec
  let some ref := workloadRef? spec | throw .noReference
  let apiVersion ← fieldOf ref "apiVersion"
  let kind ← fieldOf ref "kind"
  let name ← fieldOf ref "name"
  pure (apiVersion, kind, name)

/-- The workload that an object points at, in the namespace of the object. -/
def pointedAt (h : Handle) : Except Failure WorkloadRef :=
  match readPointer h.object with
  | .error fault => .error (.malformedPointer h.gvk.kind h.name fault.message)
  | .ok (apiVersion, kind, name) =>
    match Gvk.ofApiVersion apiVersion kind with
    | .error fault => .error (.invalidReference apiVersion fault.message)
    | .ok gvk => .ok ⟨gvk, h.ns?, name⟩

def classify (h : Handle) : Except Failure Target :=
  if h.gvk.isPointer then (pointedAt h).map .pointer else .ok (.workload h.identity)

end Rollback
