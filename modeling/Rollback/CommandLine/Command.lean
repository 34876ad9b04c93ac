import Rollback.CommandLine.Item
import Rollback.Engine.Report
import Rollback.Failure
import Rollback.Server.Session
import Rollback.Text.Numeral
import Rollback.Workload.Argument
import Rollback.Workload.Revision

/-! The commands of the program: what `rollout undo` is told, and how it is read from the words of a
command line. -/
namespace Rollback

/-- What `rollout undo` is told. Of an option that may be missing, none means that it is. -/
structure UndoOptions where
  resources : List String
  toRevision? : Option RevisionSelector
  dryRun? : Option DryRun
  filenames : List String
  recursive : Bool
  ns? : Option String
  context? : Option String
  output? : Option OutputFormat
  deriving DecidableEq, Repr, Inhabited

inductive TargetFault where
  | argument (fault : ArgumentFault)
  /-- Neither an argument nor a manifest. -/
  | noTarget
  deriving DecidableEq, Repr

def TargetFault.cause : TargetFault → Cause
  | .argument fault => (Failure.unresolved fault.message).cause
  | .noTarget => .plain "required resource not specified"

namespace UndoOptions

def empty : UndoOptions := ⟨[], none, none, [], false, none, none, none⟩

def once {α : Type} (o : OptionName) (old? : Option α) (read? : String → Option α)
    (value : String) : Except UsageFault (Option α) :=
  match read? value with
  | none => .error (.invalidValue o value)
  | some v => if old?.isSome then .error (.repeated o) else .ok (some v)

def revision? (value : String) : Option RevisionSelector :=
  (Text.int64? value).bind RevisionSelector.ofFlag?

def mode? (value : String) : Option DryRun := if value = "" then none else DryRun.ofText? value

/-- The options with one more. A missing value is that of the option alone. -/
def give (o : UndoOptions) (name : OptionName) (value? : Option String) :
    Except UsageFault UndoOptions :=
  let value := value?.getD ""
  match name with
  | .toRevision => do
    let v? ← once name o.toRevision? revision? value
    pure { o with toRevision? := v? }
  | .dryRun => do
    let v? ← once name o.dryRun? mode? (value?.getD "client")
    pure { o with dryRun? := v? }
  | .filename =>
    if value = "" then .error (.invalidValue name value)
    else .ok { o with filenames := o.filenames ++ [value] }
  | .recursive => if o.recursive then .error (.repeated name) else .ok { o with recursive := true }
  | .ns => do
    let v? ← once name o.ns? some value
    pure { o with ns? := v? }
  | .context => do
    let v? ← once name o.context? some value
    pure { o with context? := v? }
  | .output => do
    let v? ← once name o.output? OutputFormat.ofText? value
    pure { o with output? := v? }

def namespaceVariable : String := "REWIND_NAMESPACE"

def within (env : Environment) (o : UndoOptions) : UndoOptions :=
  { o with ns? := o.ns?.or (env.lookup namespaceVariable) }

/-- The request for what the options name. A namespace that was given holds for manifests too. -/
def request (o : UndoOptions) (defaultNamespace : String) : Except TargetFault Request :=
  match Argument.parse o.resources with
  | .error fault => .error (.argument fault)
  | .ok args =>
    if args.isEmpty && o.filenames.isEmpty then .error .noTarget
    else
      .ok { ns := o.ns?.getD defaultNamespace, enforceNamespace := o.ns?.isSome, args := args,
            filenames := o.filenames, recursive := o.recursive }

def selector (o : UndoOptions) : RevisionSelector := o.toRevision?.getD .previous

def dryRun (o : UndoOptions) : DryRun := o.dryRun?.getD .none

def output (o : UndoOptions) : OutputFormat := o.output?.getD .name

end UndoOptions

inductive Command where
  | version
  | help
  | undo (options : UndoOptions)
  deriving DecidableEq, Repr

namespace Command

/-- The command `rollout undo` with the items after it. -/
def undoOf (o : UndoOptions) : List Item → Except UsageFault Command
  | [] => .ok (.undo o)
  | .operand text :: rest => undoOf { o with resources := o.resources ++ [text] } rest
  | .option name value? :: rest => do
    let o ← o.give name value?
    undoOf o rest
  | .help :: _ => .ok .help
  | .fault fault :: _ => .error fault

/-- A word where a command is expected, `topics` being the commands. -/
def ofWord (topics : List String) (word : String) (rest : List String) :
    Except UsageFault Command :=
  if word = "--help" ∨ Text.startsWith "-h" word then .ok .help
  else if word = "help" then
    match rest with
    | [] => .ok .help
    | topic :: _ => if topics.contains topic then .ok .help else .error (.unknownCommand topic)
  else if Item.isOptionLike word then .error (.unknownOption word)
  else .error (.unknownCommand word)

def ofWords : List String → Except UsageFault Command
  | [] | ["rollout"] => .error .missingCommand
  | "rollout" :: "undo" :: rest => undoOf .empty (Item.ofWords rest)
  | "rollout" :: word :: rest => ofWord ["undo", "help"] word rest
  | word :: rest =>
    if word = "--version" ∨ Text.startsWith "-V" word then .ok .version
    else ofWord ["rollout", "help"] word rest

end Command

end Rollback
