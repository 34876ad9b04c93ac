import Rollback.Api.Workloads
import Rollback.Engine.Run
import Rollback.History.Revisions
import Rollback.History.Template
import Rollback.Json.MergePatch
import Rollback.Server.LiveObject
import Rollback.Text.Split
import Rollback.Yaml.Printer

/-! Rolling back a workload that keeps its history in controller revisions. A built-in type gets the
stored data as it is; a custom one gets what turns its template into the stored one. The plural under which
the objects of a kind are served is guessed from the kind alone. -/
namespace Rollback

namespace Plural

/-- Words with a plural of their own. -/
def irregular : List (String × String) :=
  [("endpoints", "endpoints"), ("endpointslices", "endpointslices"), ("nodemetrics", "nodes"),
    ("podmetrics", "pods")]

/-- Endings after which the plural has another syllable. -/
def hissing : List String := ["s", "x", "z", "ch", "sh"]

def isVowel (c : Char) : Bool := ['a', 'e', 'i', 'o', 'u'].contains c

/-- The plural of a word of small letters. A `y` becomes `ie` unless a vowel stands before it: the
character at the place that comes two octets before the end. -/
def ofWord (word : String) : String :=
  match irregular.lookup word with
  | some plural => plural
  | none =>
    if hissing.any fun ending => Text.endsWith ending word then word ++ "es"
    else if Text.endsWith "y" word && 1 < word.utf8ByteSize then
      match word.toList[word.utf8ByteSize - 2]? with
      | some c => if isVowel c then word ++ "s" else String.ofList word.toList.dropLast ++ "ies"
      | none => word ++ "s"
    else word ++ "s"

/-- The plural of a kind. Only letters of ASCII are made small. -/
def ofKind (kind : String) : String := ofWord (String.ofList (kind.toList.map Char.toLower))

end Plural

namespace RevisionRollback

open Api

structure Coordinates where
  ns : String
  name : String
  uid : String

def coordinates (object : Json) : Except Cause Coordinates := do
  let field (name : String) : Except Cause String :=
    match object.textAt? ["metadata", name] with
    | some s => .ok s
    | none => .error (.plain ("object has no metadata." ++ name))
  let ns ← field "namespace"
  let name ← field "name"
  let uid ← field "uid"
  pure ⟨ns, name, uid⟩

def selectorOf (kind name : String) (object : Json) : Except Cause LabelSelector :=
  match object.at? ["spec", "selector"] with
  | none => .error (.plain (kind ++ " " ++ Text.quote name ++ " has no selector"))
  | some v =>
    match LabelSelector.ofJson? v with
    | some selector => .ok selector
    | none => .error ⟨"decoding spec.selector", [Json.faultMessage]⟩

def history (items : List ControllerRevision) (uid : String) : History ControllerRevision :=
  (items.filter fun r => r.metadata.isControlledBy uid).map fun r => (r.revision, r)

def revisionCause : RevisionFault → Cause
  | .noPrevious => .plain "no last revision to roll back to"
  | fault => .plain fault.message

structure Chosen where
  number : Int
  data : Json
  template : Json

def choose (items : List ControllerRevision) (uid : String) (selector : RevisionSelector) :
    Except Cause Chosen := do
  match (history items uid).select selector with
  | .error fault => throw (revisionCause fault)
  | .ok (number, r) =>
    let some data := r.data? | throw (.plain s!"revision {number} carries no data")
    let some template := Template.ofRevision? data
      | throw (.plain s!"revision {number} has no spec.template")
    pure ⟨number, data, template⟩

/-- The document that is sent to go back to a revision. -/
def patch (kind : PatchKind) (live : Json) (chosen : Chosen) : Json :=
  match kind with
  | .strategic => chosen.data
  | .merge => .mk [("spec", .mk [("template", Json.diff live chosen.template)])]

variable {σ : Type} (server : Server σ)

def workloadPath (gvk : Gvk) (ns name : String) : String :=
  resourcePath gvk.group gvk.apiVersion (Plural.ofKind gvk.kind) (some ns) ++ "/" ++ name

/-- Rolls a workload back. A client dry run shows the template instead. -/
def act (kind : PatchKind) (h : Handle) (selector : RevisionSelector) (dryRun : DryRun) :
    Act σ String := do
  let place ← coordinates h.object
  let labelSelector ← selectorOf h.gvk.kind place.name h.object
  let labels ← labelSelector.render.mapError fun fault => Cause.plain fault.message
  let items ← server.fetch "list controllerrevisions"
    (HttpRequest.listAt (resourcePath "apps" "apps/v1" "controllerrevisions" (some place.ns))
      (some labels)) (readList ControllerRevision.ofJson?)
  let chosen ← choose items place.uid selector
  let live := (h.object.at? ["spec", "template"]).getD .null
  if Template.agree live chosen.template then return Template.skipped chosen.number
  if dryRun = .client then return Yaml.render chosen.template
  let _ ← server.fetch "patch workload"
    (HttpRequest.patchAt (workloadPath h.gvk place.ns place.name) (dryRun == .server) kind
      (patch kind live chosen)) LiveObject.ofJson?
  return Template.rolledBack

def strategy (kind : PatchKind) : Strategy (Session σ) :=
  fun h selector dryRun => (act server kind h selector dryRun).run

end RevisionRollback

end Rollback
