import Rollback.Api.Workloads
import Rollback.Server.Session

/-! Objects of any type as the server holds them: their metadata in its shape, everything else as it
is. -/
namespace Rollback

open Api

structure LiveObject where
  /-- The metadata in its shape. -/
  metadata : Json
  /-- All members but the metadata and those that tell the type. -/
  others : Members
  deriving Repr, Inhabited

namespace LiveObject

/-- The members besides those that tell the type. A kind after an `apiVersion` that is no text tells
nothing and stays. -/
def withoutType (members : Members) : Members :=
  let readable := match lookup "apiVersion" members with
    | none | some (.string _) => true
    | some _ => false
  let members := erase "apiVersion" members
  if readable then erase "kind" members else members

/-- The object of a document. Missing metadata is empty. -/
def ofJson? : Json → Option LiveObject
  | .object members =>
    (metadataSchema.read ((lookup "metadata" members).getD (.object []))).map fun metadata =>
      ⟨metadata, withoutType (erase "metadata" members)⟩
  | _ => none

/-- The metadata without the record of who set what. -/
def cleanMetadata (o : LiveObject) : Json :=
  .object (erase "managedFields" (o.metadata.members?.getD []))

/-- The document of the object as one of a resource. -/
def toJson (o : LiveObject) (r : Resource) : Json :=
  .mk ([("apiVersion", .string r.apiVersion), ("kind", .string r.kind),
    ("metadata", o.cleanMetadata)] ++ o.others)

/-- The object with its coordinates. It is in its own namespace, or else in the one that was asked
for. -/
def toHandle (o : LiveObject) (r : Resource) (ns? : Option String) : Handle :=
  { gvk := r.gvk,
    ns? := if r.namespaced then o.metadata.textAt? ["namespace"] <|> ns? else none,
    name := (o.metadata.textAt? ["name"]).getD "",
    object := o.toJson r }

end LiveObject

end Rollback
