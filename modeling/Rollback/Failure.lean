import Rollback.Text.Quoted
import Rollback.Workload.Identity

/-! What can go wrong with a target, and the wording of it. -/
namespace Rollback

/-- A failure told from the outside in: what was attempted, then why it failed, and so on. -/
structure Cause where
  message : String
  reasons : List String
  deriving DecidableEq, Repr, Inhabited

namespace Cause

/-- A failure with nothing behind it. -/
def plain (message : String) : Cause := ⟨message, []⟩

/-- All messages, outermost first. -/
def messages (c : Cause) : List String := c.message :: c.reasons

/-- The failure seen as the reason of a wider one. -/
def within (context : String) (c : Cause) : Cause := ⟨context, c.messages⟩

def text (c : Cause) : String := ": ".intercalate c.messages

end Cause

/-- What went wrong with one target, or with a request as a whole. -/
inductive Failure where
  /-- An object that should name a workload does not. -/
  | malformedPointer (kind name reason : String)
  /-- An object names a workload by an unreadable `apiVersion`. -/
  | invalidReference (apiVersion reason : String)
  | duplicateTarget (identity : Identity)
  | noStrategy (group kind : String)
  /-- The server cannot try a change of this type. -/
  | dryRunUnsupported (gvk : Gvk) (cause : Cause)
  | strategy (identity : Identity) (cause : Cause)
  | fetch (target : String) (cause : Cause)
  | print (target : String) (cause : Cause)
  /-- The request as a whole has no answer. -/
  | resolution (cause : Cause)
  /-- A sum did not fit in 64 bits, which ends the program. -/
  | overflow
  deriving DecidableEq, Repr, Inhabited

namespace Failure

/-- A one-word label. -/
def operation : Failure → String
  | .malformedPointer .. => "malformed_pointer"
  | .invalidReference .. => "invalid_reference"
  | .duplicateTarget .. => "duplicate_target"
  | .noStrategy .. => "no_strategy"
  | .dryRunUnsupported .. => "dry_run_unsupported"
  | .strategy .. => "strategy"
  | .fetch .. => "fetch"
  | .print .. => "print"
  | .resolution .. => "resolution"
  | .overflow => "panic"

def message : Failure → String
  | .malformedPointer kind name reason =>
    kind ++ " " ++ Text.quote name ++ " does not point to a workload: " ++ reason
  | .invalidReference apiVersion reason =>
    "invalid workload reference apiVersion " ++ Text.quote apiVersion ++ ": " ++ reason
  | .duplicateTarget identity =>
    identity.text ++ " is targeted more than once; only its first occurrence is rolled back"
  | .noStrategy group kind =>
    "no rollback strategy for " ++ kind ++ " (group " ++ Text.quote group ++ ")"
  | .dryRunUnsupported gvk _ => "server dry-run is not supported for " ++ gvk.key
  | .strategy identity _ => "rolling back " ++ identity.text
  | .fetch target _ => "fetching " ++ target
  | .print target _ => "printing " ++ target
  | .resolution _ => "resolving resources"
  | .overflow => "attempt to add with overflow"

def reasons : Failure → List String
  | .dryRunUnsupported _ cause | .strategy _ cause | .fetch _ cause | .print _ cause
  | .resolution cause => cause.messages
  | _ => []

def cause (f : Failure) : Cause := ⟨f.message, f.reasons⟩

def report (f : Failure) : String := f.cause.text

def unresolved (reason : String) : Failure := .resolution (.plain reason)

end Failure

/-- The failures of both phases of a run, at least one. -/
structure Failures where
  direct : List Failure
  indirect : List Failure
  deriving DecidableEq, Repr

namespace Failures

def toList (f : Failures) : List Failure := f.direct ++ f.indirect

def size (f : Failures) : Nat := f.direct.length + f.indirect.length

def isEmpty (f : Failures) : Bool := f.size == 0

def ofPhases? (direct indirect : List Failure) : Option Failures :=
  let all : Failures := ⟨direct, indirect⟩
  if all.isEmpty then none else some all

def text (f : Failures) : String := "\n".intercalate (f.toList.map Failure.report)

end Failures

end Rollback
