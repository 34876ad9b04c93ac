import Rollback.Api.Schema

/-! The metadata that every API object carries, and the objects that own it. -/
namespace Rollback.Api

open Schema

def ownerFields : List Field :=
  must .text ["apiVersion", "kind", "name", "uid"] ++ may .bool ["blockOwnerDeletion", "controller"]

def managedFields : List Field :=
  may .text ["apiVersion", "fieldsType", "manager", "operation", "subresource"]
    ++ may .any ["fieldsV1"] ++ may (.time false) ["time"]

def metadataSchema : Schema :=
  .record (may (.table .text) ["annotations", "labels"]
    ++ may (.time false) ["creationTimestamp", "deletionTimestamp"]
    ++ may int64 ["deletionGracePeriodSeconds", "generation"]
    ++ may (.list .text) ["finalizers"]
    ++ may .text ["generateName", "name", "namespace", "resourceVersion", "selfLink", "uid"]
    ++ may (.list (.record managedFields)) ["managedFields"]
    ++ may (.list (.record ownerFields)) ["ownerReferences"])

def listMetadataSchema : Schema :=
  .record (may .text ["continue", "resourceVersion", "selfLink"] ++ may int64 ["remainingItemCount"])

structure Owner where
  uid : String
  /-- Whether it manages the other. -/
  controls : Bool
  deriving DecidableEq, Repr, Inhabited

structure Metadata where
  name? : Option String
  ns? : Option String
  uid? : Option String
  /-- In the order of their names. -/
  annotations : List (String × String)
  owners : List Owner
  deriving Repr, Inhabited

namespace Metadata

def ownerOf (v : Json) : Owner :=
  { uid := (v.textAt? ["uid"]).getD "",
    controls := match v.get? "controller" with
      | some (.bool b) => b
      | _ => false }

def ofRecord (v : Json) : Metadata :=
  { name? := v.textAt? ["name"], ns? := v.textAt? ["namespace"], uid? := v.textAt? ["uid"],
    annotations := textMembers ((v.get? "annotations").getD .null),
    owners := (((v.get? "ownerReferences").bind Json.items?).getD []).map ownerOf }

def ofJson? (v : Json) : Option Metadata := (metadataSchema.read v).map ofRecord

/-- Whether the object with the given uid manages this one. -/
def isControlledBy (m : Metadata) (uid : String) : Bool :=
  m.owners.any fun o => o.controls && o.uid == uid

end Metadata

end Rollback.Api
