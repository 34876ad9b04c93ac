import Rollback.Api.Schema
import Rollback.Catalog.Priority
import Rollback.Server.Session

/-! Finding out what a server serves: its groups, the versions of each group, and the resources of
each version. The first request that fails ends it. -/
namespace Rollback

open Api Schema

namespace Discovery

def addresses : Schema := .list (.record (must .text ["clientCIDR", "serverAddress"]))

def versionFields : List Field := must .text ["groupVersion", "version"]

def groupFields : List Field :=
  [("apiVersion", .optional, .word "v1"), ("kind", .optional, .word "APIGroup"),
    ("name", .required, .text), ("preferredVersion", .optional, .record versionFields),
    ("serverAddressByClientCIDRs", .optional, addresses),
    ("versions", .required, .list (.record versionFields))]

def groupListSchema : Schema :=
  .record [("apiVersion", .optional, .word "v1"), ("kind", .optional, .word "APIGroupList"),
    ("groups", .required, .list (.record groupFields))]

def coreSchema : Schema :=
  .record [("apiVersion", .optional, .word "v1"), ("kind", .optional, .word "APIVersions"),
    ("serverAddressByClientCIDRs", .required, addresses), ("versions", .required, .list .text)]

def resourceFields : List Field :=
  must .text ["kind", "name", "singularName"] ++ must .bool ["namespaced"]
    ++ must (.list .text) ["verbs"] ++ may (.list .text) ["categories", "shortNames"]
    ++ may .text ["group", "storageVersionHash", "version"]

def resourceListSchema : Schema :=
  .record [("apiVersion", .optional, .word "v1"), ("kind", .optional, .word "APIResourceList"),
    ("groupVersion", .required, .text), ("resources", .required, .list (.record resourceFields))]

structure GroupVersion where
  /-- The text under which its resources are listed. -/
  groupVersion : String
  version : String

structure Group where
  name : String
  versions : List GroupVersion
  preferred? : Option String

def itemsOf (key : String) (v : Json) : List Json := ((v.get? key).bind Json.items?).getD []

def textOf (key : String) (v : Json) : String := (v.textAt? [key]).getD ""

def groupOf (v : Json) : Group :=
  { name := textOf "name" v,
    versions := (itemsOf "versions" v).map fun v => ⟨textOf "groupVersion" v, textOf "version" v⟩,
    preferred? := v.textAt? ["preferredVersion", "version"] }

def groups? (v : Json) : Option (List Group) :=
  (groupListSchema.read v).map fun v => (itemsOf "groups" v).map groupOf

def coreVersions? (v : Json) : Option (List String) :=
  (coreSchema.read v).map fun v => (itemsOf "versions" v).filterMap Json.text?

/-- Group and version in the text of both: what stands before and after its first slash. -/
def splitGroupVersion (text : String) : String × String := (Text.cut '/' text).getD ("", text)

/-- The resources of one version; those with a slash in their name are parts of others. Scope and verbs
are those of the first resource of the name. -/
def resourcesOf (v : Json) : List Resource :=
  let (group, version) := splitGroupVersion (textOf "groupVersion" v)
  let all := itemsOf "resources" v
  (all.filter fun r => !Text.has '/' (textOf "name" r)).map fun r =>
    let name := textOf "name" r
    let first := (all.find? fun other => textOf "name" other = name).getD r
    { group := (r.textAt? ["group"]).getD group, version := (r.textAt? ["version"]).getD version,
      kind := textOf "kind" r, plural := name, apiVersion := renderApiVersion group version,
      namespaced := match first.get? "namespaced" with
        | some (.bool b) => b
        | _ => false,
      preferred := false, verbs := textItems ((first.get? "verbs").getD .null) }

def resources? (v : Json) : Option (List Resource) := (resourceListSchema.read v).map resourcesOf

abbrev Version := String × List Resource

/-- The entries of a group: its versions by preference, each with the resources found under its name
first. The preferred version is the given one or the first. -/
def entriesOf (preferred? : Option String) (versions : List Version) : List Resource :=
  let sorted := versions.mergeSort fun a b =>
    (ApiVersion.ofText a.1).atLeast (ApiVersion.ofText b.1)
  let preferred := preferred?.getD ((sorted.head?.map (·.1)).getD "")
  sorted.flatMap fun (version, _) =>
    ((sorted.lookup version).getD []).map fun r => { r with preferred := version == preferred }

def emptyGroup (name : String) : Cause :=
  let reason := "Empty Api Group: " ++ name
  ⟨"Error from discovery: " ++ reason, [reason]⟩

variable {σ : Type} (server : Server σ)

/-- What all requests are for. -/
def purpose : String := "API discovery"

def readGroup (name : String) (preferred? : Option String) (paths : List (String × String)) :
    Act σ (List Resource) := do
  if paths.isEmpty then throw ((emptyGroup name).within purpose)
  let versions ← paths.mapM fun (version, path) => do
    pure (version, ← server.fetch purpose (HttpRequest.getAt path) resources?)
  pure (entriesOf preferred? versions)

def readListed (group : Group) : Act σ (String × List Resource) := do
  let paths := group.versions.map fun v => (v.version, "/apis/" ++ v.groupVersion)
  pure (group.name, ← readGroup server group.name group.preferred? paths)

def corePreferred : String := "v1"

def readCore : Act σ (List Resource) := do
  let versions ← server.fetch purpose (HttpRequest.getAt "/api") coreVersions?
  readGroup server "" (some corePreferred) (versions.map fun v => (v, "/api/" ++ v))

/-- The groups without those that are found again later under the same name. -/
def latest : List (String × List Resource) → List (String × List Resource)
  | [] => []
  | group :: rest => if rest.any (·.1 = group.1) then latest rest else group :: latest rest

/-- Everything that the server serves. The core group takes the place of a listed group without
name. -/
def run : Act σ Catalog := do
  let groups ← server.fetch purpose (HttpRequest.getAt "/apis") groups?
  let listed ← groups.mapM (readListed server)
  let core ← readCore server
  pure ⟨(latest (listed ++ [("", core)])).flatMap (·.2)⟩

end Discovery

namespace Server

variable {σ : Type} (server : Server σ)

/-- What the server serves. It is asked for on first need and kept once it is known. -/
def catalog : ExceptT CatalogFault (StateM (Session σ)) Catalog := do
  match (← get).catalog? with
  | some catalog => pure catalog
  | none =>
    match ← (Discovery.run server).run with
    | .error cause => throw (.undiscovered cause)
    | .ok catalog =>
      modify fun session => { session with catalog? := some catalog }
      pure catalog

end Server

end Rollback
