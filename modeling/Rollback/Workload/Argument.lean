import Rollback.Text.Quoted
import Rollback.Workload.Handle

/-! The targets that a user names, either all as `TYPE/NAME` or as `TYPE[,TYPE...] [NAME...]`, and the
request that they make up together with manifest files. -/
namespace Rollback

inductive Argument where
  /-- An object of a type, or all of them when there is no name. -/
  | typed (resource : String) (name? : Option String)
  /-- A workload that another object names. -/
  | workload (ref : WorkloadRef)
  deriving DecidableEq, Repr, Inhabited

inductive ArgumentFault where
  /-- A text without slash among others with one. -/
  | noSlash (arg : String)
  | manySlashes (arg : String)
  /-- Nothing before or after the slash. -/
  | missingPart (arg : String)
  /-- A list of types with an empty piece. -/
  | emptyType (types : String)
  deriving DecidableEq, Repr

def ArgumentFault.message : ArgumentFault → String
  | .noSlash arg =>
    "there is no need to specify a resource type as a separate argument when passing arguments in "
      ++ "resource/name form (e.g. 'rewindctl rollout undo resource/<name>' instead of "
      ++ "'rewindctl rollout undo resource resource/<name>'), got " ++ Text.quote arg
  | .manySlashes arg =>
    "arguments in resource/name form may not have more than one slash: " ++ Text.quote arg
  | .missingPart arg =>
    "arguments in resource/name form must have a single resource and name: " ++ Text.quote arg
  | .emptyType types => "invalid resource type list " ++ Text.quote types

namespace Argument

def parseSlashed (arg : String) : Except ArgumentFault Argument :=
  match Text.cut '/' arg with
  | none => .error (.noSlash arg)
  | some (resource, name) =>
    if Text.has '/' name then .error (.manySlashes arg)
    else if resource = "" ∨ name = "" then .error (.missingPart arg)
    else .ok (.typed resource (some name))

/-- The targets of one type: one per name, or the whole type when there are no names. -/
def ofType (names : List String) (resource : String) : List Argument :=
  if names.isEmpty then [.typed resource none]
  else names.map fun name => .typed resource (some name)

def parse (args : List String) : Except ArgumentFault (List Argument) :=
  match args with
  | [] => .ok []
  | first :: names =>
    if args.any (Text.has '/') then args.mapM parseSlashed
    else
      let types := Text.splitAt ',' first
      if types.any (· = "") then .error (.emptyType first)
      else .ok (types.flatMap (ofType names))

end Argument

/-- Everything that names targets in one go. -/
structure Request where
  /-- The namespace of objects that do not say theirs. -/
  ns : String
  /-- Refuse manifests of another namespace. -/
  enforceNamespace : Bool
  args : List Argument
  /-- Manifest files and directories. -/
  filenames : List String
  /-- Read directories at every depth. -/
  recursive : Bool
  deriving DecidableEq, Repr, Inhabited

namespace Request

/-- The request for workloads that were found through other objects. -/
def followUp (r : Request) (refs : List WorkloadRef) : Request :=
  { ns := r.ns, enforceNamespace := false, args := refs.map .workload, filenames := [],
    recursive := false }

def isEmpty (r : Request) : Bool := r.args.isEmpty && r.filenames.isEmpty

end Request

end Rollback
