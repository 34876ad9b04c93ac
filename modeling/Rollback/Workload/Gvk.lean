import Rollback.Text.Split

/-! The type of an object: its API group, the version of the group and the kind. An `apiVersion` text
holds group and version together; the core group, whose name is empty, is left out of it. -/
namespace Rollback

structure Gvk where
  group : String
  version : String
  kind : String
  deriving DecidableEq, Repr, Inhabited

inductive ApiVersionFault where
  | empty
  | tooManySlashes
  | noVersion
  deriving DecidableEq, Repr

def ApiVersionFault.message : ApiVersionFault → String
  | .empty => "apiVersion is empty"
  | .tooManySlashes => "unexpected GroupVersion string"
  | .noVersion => "version is empty"

def renderApiVersion (group version : String) : String :=
  if group = "" then version else group ++ "/" ++ version

/-- Group and version of an `apiVersion` text: `version` alone for the core group, or
`group/version`. -/
def parseApiVersion (text : String) : Except ApiVersionFault (String × String) :=
  if text = "" then .error .empty
  else
    match Text.splitAt '/' text with
    | [version] => withVersion "" version
    | [group, version] => withVersion group version
    | _ => .error .tooManySlashes
where
  withVersion (group version : String) : Except ApiVersionFault (String × String) :=
    if version = "" then .error .noVersion else .ok (group, version)

namespace Gvk

/-- The type with the group and version of an `apiVersion` text. -/
def ofApiVersion (apiVersion kind : String) : Except ApiVersionFault Gvk :=
  (parseApiVersion apiVersion).map fun (group, version) => ⟨group, version, kind⟩

def apiVersion (g : Gvk) : String := renderApiVersion g.group g.version

/-- `version/Kind`, or `group/version/Kind`. -/
def key (g : Gvk) : String := g.apiVersion ++ "/" ++ g.kind

end Gvk

end Rollback
