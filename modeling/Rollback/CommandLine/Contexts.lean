import Rollback.Json.Basic
import Rollback.Text.Quoted

/-! The contexts in which a user works with clusters, and the choice of one. Of a configuration only the
names of contexts and their namespaces are kept, and nothing of addresses, certificates and users. -/
namespace Rollback

structure Contexts where
  /-- The name of each context and its namespace. -/
  namespaces : List (String × Option String)
  /-- The name of the context to take when none is asked for. -/
  current? : Option String
  deriving DecidableEq, Repr, Inhabited

inductive ConnectFault where
  /-- No context was asked for and none is current. -/
  | noCurrent
  | unknown (context : String)
  deriving DecidableEq, Repr

def ConnectFault.message : ConnectFault → String
  | .noCurrent => "inferring kube config"
  | .unknown context => "loading kubeconfig context " ++ Text.quote context

namespace Contexts

def empty : Contexts := ⟨[], none⟩

def defaultNamespace : String := "default"

def select (c : Contexts) (context? : Option String) : Except ConnectFault String :=
  match context? with
  | some name =>
    match lookup name c.namespaces with
    | some ns? => .ok (ns?.getD defaultNamespace)
    | none => .error (.unknown name)
  | none =>
    match c.current?.bind (lookup · c.namespaces) with
    | some ns? => .ok (ns?.getD defaultNamespace)
    | none => .error .noCurrent

def entryOf? (entry : Json) : Option (String × Option String) :=
  (entry.textAt? ["name"]).map fun name => (name, entry.textAt? ["context", "namespace"])

def ofJson (config : Json) : Contexts :=
  { namespaces := (((config.get? "contexts").bind Json.items?).getD []).filterMap entryOf?,
    current? := config.textAt? ["current-context"] }

end Contexts

end Rollback
