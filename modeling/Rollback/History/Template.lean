import Rollback.Json.Basic

/-! Pod templates as they are compared and sent, and the annotations of a deployment that goes back to an
earlier revision. A controller adds to each template a label that differs from revision to revision, which
is left out of every comparison. -/
namespace Rollback

namespace Template

/-- The label that tells one revision's pods from another's. -/
def hashLabel : String := "pod-template-hash"

/-- The value with one member changed, if it is an object that has it. -/
def updateMember (key : String) (change : Json → Json) : Json → Json
  | .object members => .object (members.map fun (k, v) => if k = key then (k, change v) else (k, v))
  | v => v

def withoutMember (key : String) : Json → Json
  | .object members => .object (erase key members)
  | v => v

/-- The template without the label that a controller added. -/
def withoutHash (template : Json) : Json :=
  updateMember "metadata" (updateMember "labels" (withoutMember hashLabel)) template

/-- Whether two templates differ in nothing but that label. -/
def agree (a b : Json) : Bool := (withoutHash a).same (withoutHash b)

/-- What a rollback says that had nothing to do. -/
def skipped (revision : Int) : String :=
  s!"skipped rollback (current template already matches revision {revision})"

/-- What a rollback says that changed the template. -/
def rolledBack : String := "rolled back"

/-- The template inside a stored revision, without the mark that tells how to apply it. -/
def ofRevision? (data : Json) : Option Json :=
  (data.at? ["spec", "template"]).map (withoutMember "$patch")

end Template

namespace Annotations

abbrev Map := List (String × String)

/-- The annotations that describe the deployment and not its template. -/
def own : List String :=
  ["kubectl.kubernetes.io/last-applied-configuration", "deployment.kubernetes.io/revision",
    "deployment.kubernetes.io/revision-history", "deployment.kubernetes.io/desired-replicas",
    "deployment.kubernetes.io/max-replicas", "deprecated.deployment.rollback.to"]

/-- The deployment keeps its own annotations and takes all others from the earlier revision. -/
def rolledBack (current earlier : Map) : Map :=
  sortEntries (own.filterMap (fun key => (lookup key current).map (key, ·))
    ++ earlier.filter fun (key, _) => !own.contains key)

end Annotations

end Rollback
