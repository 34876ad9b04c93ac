import Rollback.Failure
import Rollback.Workload.Handle

/-! The resources that a server serves, and the names by which a user may ask for one: a short name, a
kind, a plural, `name.group` or `Kind.version.group`. -/
namespace Rollback

structure Resource where
  group : String
  version : String
  kind : String
  plural : String
  /-- The text under which the server serves it. -/
  apiVersion : String
  namespaced : Bool
  /-- Whether the version is the preferred one of its group. -/
  preferred : Bool
  verbs : List String
  deriving DecidableEq, Repr, Inhabited

namespace Resource

def gvk (r : Resource) : Gvk := ⟨r.group, r.version, r.kind⟩

def supports (r : Resource) (verb : String) : Bool := r.verbs.contains verb

/-- Whether a lower-case name means this resource. -/
def hasName (r : Resource) (name : String) : Bool :=
  r.plural == name || Text.lowerCase r.kind == name

/-- `kind.group` in messages. -/
def label (r : Resource) : String := r.gvk.label

end Resource

structure Catalog where
  entries : List Resource
  deriving DecidableEq, Repr, Inhabited

inductive CatalogFault where
  | unknownType (input : String)
  | notServed (gvk : Gvk)
  /-- The server did not say what it serves. -/
  | undiscovered (cause : Cause)
  deriving DecidableEq, Repr

def CatalogFault.cause : CatalogFault → Cause
  | .unknownType input =>
    .plain ("the server doesn't have a resource type " ++ Text.quote input)
  | .notServed gvk => .plain ("the server doesn't serve " ++ gvk.key)
  | .undiscovered cause => cause.within "API discovery failed"

/-- A short name with the group and plural that it stands for. -/
structure ShortName where
  short : String
  group : String
  plural : String

def shortNames : List ShortName :=
  [⟨"deploy", "apps", "deployments"⟩, ⟨"ds", "apps", "daemonsets"⟩, ⟨"sts", "apps", "statefulsets"⟩,
    ⟨"rs", "apps", "replicasets"⟩, ⟨"asts", "apps.kruise.io", "statefulsets"⟩,
    ⟨"ads", "apps.kruise.io", "daemonsets"⟩, ⟨"clone", "apps.kruise.io", "clonesets"⟩,
    ⟨"ro", "rollouts.kruise.io", "rollouts"⟩]

/-- Groups by how likely a bare name means them: the core group, built-in groups, groups of the
project, all others. -/
def groupRank (group : String) : Nat :=
  if group = "" then 0
  else if !Text.has '.' group then 1
  else if Text.endsWith ".k8s.io" group then 2
  else 3

namespace Catalog

/-- The resource of a type at exactly this version. -/
def find? (c : Catalog) (gvk : Gvk) : Option Resource := c.entries.find? fun r => r.gvk = gvk

/-- The resources at the preferred versions of their groups. -/
def preferred (c : Catalog) : List Resource := c.entries.filter (·.preferred)

/-- Whether the first resource is the better answer to a bare name. -/
def better (a b : Resource) : Bool :=
  groupRank a.group < groupRank b.group
    || (groupRank a.group == groupRank b.group && a.group < b.group)

def best : List Resource → Option Resource
  | [] => none
  | r :: rest =>
    match best rest with
    | some other => if better other r then some other else some r
    | none => some r

def ofShortName? (c : Catalog) (name : String) : Option Resource :=
  (shortNames.find? (·.short = name)).bind fun s =>
    c.preferred.find? fun r => r.group = s.group ∧ r.plural = s.plural

/-- The resource of a lower-case `name.version.group`, or else of `name.group`. -/
def ofQualifiedName? (c : Catalog) (text : String) : Option Resource :=
  (Text.cut '.' text).bind fun (name, rest) =>
    let exact := (Text.cut '.' rest).bind fun (version, group) =>
      c.entries.find? fun r => r.version = version ∧ r.group = group ∧ r.hasName name
    exact <|> c.preferred.find? fun r => r.group = rest ∧ r.hasName name

def ofBareName? (c : Catalog) (name : String) : Option Resource :=
  best (c.preferred.filter (·.hasName name))

/-- The resource that a user's name means. -/
def resolve (c : Catalog) (input : String) : Except CatalogFault Resource :=
  let name := Text.lowerCase input
  match c.ofShortName? name <|> c.ofQualifiedName? name <|> c.ofBareName? name with
  | some r => .ok r
  | none => .error (.unknownType input)

def patchVerb : String := "patch"

/-- Whether the server can try a change of the type without keeping it. -/
def checkDryRun (c : Catalog) (gvk : Gvk) : Except Cause Unit :=
  match c.find? gvk with
  | none => .error (.plain (gvk.key ++ " is not served by the cluster"))
  | some r =>
    if r.supports patchVerb then .ok ()
    else .error (.plain (gvk.key ++ " does not support server-side dry-run patches"))

end Catalog

end Rollback
