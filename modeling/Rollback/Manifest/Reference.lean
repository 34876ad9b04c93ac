import Rollback.Failure
import Rollback.Json.Basic
import Rollback.Workload.Gvk
import Rollback.Yaml.Document

/-! References to objects in manifests. Only the coordinates of an object are read. An object whose
kind ends in `List` and that has items stands for its items, at every depth. -/
namespace Rollback

structure Reference where
  gvk : Gvk
  ns? : Option String
  name : String
  deriving DecidableEq, Repr, Inhabited

inductive ReferenceFault where
  | noKind
  | noApiVersion
  | noName (kind : String)
  | badApiVersion (apiVersion : String) (fault : ApiVersionFault)
  deriving DecidableEq, Repr

def ReferenceFault.message : ReferenceFault → String
  | .noKind => "object missing kind"
  | .noApiVersion => "object missing apiVersion"
  | .noName kind => kind ++ " object missing metadata.name"
  | .badApiVersion apiVersion fault => (Failure.invalidReference apiVersion fault.message).message

namespace Reference

def ofJson (v : Json) : Except ReferenceFault Reference :=
  match v.textAt? ["kind"] with
  | none => .error .noKind
  | some kind =>
    match v.textAt? ["apiVersion"] with
    | none => .error .noApiVersion
    | some apiVersion =>
      match v.textAt? ["metadata", "name"] with
      | none => .error (.noName kind)
      | some name =>
        match Gvk.ofApiVersion apiVersion kind with
        | .error fault => .error (.badApiVersion apiVersion fault)
        | .ok gvk => .ok ⟨gvk, v.textAt? ["metadata", "namespace"], name⟩

def isListKind (members : Members) : Bool :=
  ((lookup "kind" members).bind Json.text?).any (Text.endsWith "List")

/-- The references found so far, the last first, and that of one object. -/
def add (found : List Reference) (v : Json) : Except ReferenceFault (List Reference) :=
  (ofJson v).map (· :: found)

mutual

/-- The references found so far, the last first, and those of a document: of the items of a list, one after
the other, or else of the object itself. The first fault ends it. -/
def gather (found : List Reference) : Json → Except ReferenceFault (List Reference)
  | .object members =>
    if isListKind members then
      match gatherList found members with
      | some answer => answer
      | none => add found (.object members)
    else add found (.object members)
  | v => add found v

def gatherList (found : List Reference) :
    List (String × Json) → Option (Except ReferenceFault (List Reference))
  | [] => none
  | (key, v) :: rest => if key = "items" then gatherArray found v else gatherList found rest

def gatherArray (found : List Reference) :
    Json → Option (Except ReferenceFault (List Reference))
  | .array items => some (gatherItems found items)
  | _ => none

def gatherItems (found : List Reference) : List Json → Except ReferenceFault (List Reference)
  | [] => .ok found
  | v :: rest => do gatherItems (← gather found v) rest

end

/-- The references of a JSON document, or the fault of its first object that has none. -/
def collect (v : Json) : Except ReferenceFault (List Reference) := (gather [] v).map List.reverse

def ofDocument (document : Except Yaml.Fault Yaml.Value) : Except Cause (List Reference) :=
  match document with
  | .error fault => .error ⟨"parsing YAML", [fault.message]⟩
  | .ok v =>
    if v.isNull then .ok []
    else
      match v.toJson? with
      | none => .error ⟨"converting YAML to JSON", [Json.faultMessage]⟩
      | some json => (collect json).mapError fun fault => .plain fault.message

def ofDocuments (documents : List (Except Yaml.Fault Yaml.Value)) : Except Cause (List Reference) := do
  let found ← documents.mapM ofDocument
  pure found.flatten

def parse (text : String) : Except Cause (List Reference) := ofDocuments (Yaml.documents text)

end Reference

end Rollback
