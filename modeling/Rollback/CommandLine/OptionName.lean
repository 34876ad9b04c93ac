/-! The options of `rollout undo` and the ways to write them. -/
namespace Rollback

/-- The options of `rollout undo`. -/
inductive OptionName where
  | toRevision
  | dryRun
  | filename
  | recursive
  | ns
  | context
  | output
  deriving DecidableEq, Repr, Inhabited

inductive ValueForm where
  /-- It has none. -/
  | absent
  /-- It has one, attached or as the next word. -/
  | required
  /-- It may have one, attached after an equals sign. -/
  | attached
  deriving DecidableEq, Repr, Inhabited

namespace OptionName

def long : OptionName → String
  | toRevision => "to-revision"
  | dryRun => "dry-run"
  | filename => "filename"
  | recursive => "recursive"
  | ns => "namespace"
  | context => "context"
  | output => "output"

def short? : OptionName → Option Char
  | filename => some 'f'
  | recursive => some 'R'
  | ns => some 'n'
  | output => some 'o'
  | toRevision | dryRun | context => none

def all : List OptionName := [toRevision, dryRun, filename, recursive, ns, context, output]

def ofLong? (name : String) : Option OptionName := all.find? fun o => o.long == name

def ofShort? (letter : Char) : Option OptionName := all.find? fun o => o.short? == some letter

def form : OptionName → ValueForm
  | recursive => .absent
  | dryRun => .attached
  | toRevision | filename | ns | context | output => .required

end OptionName

inductive UsageFault where
  | missingCommand
  | unknownCommand (word : String)
  | unknownOption (word : String)
  | missingValue (option : OptionName)
  /-- A value for an option that has none. -/
  | unexpectedValue (option : String)
  /-- An option that may be given once was given again. -/
  | repeated (option : OptionName)
  | invalidValue (option : OptionName) (value : String)
  deriving DecidableEq, Repr, Inhabited

def UsageFault.message : UsageFault → String
  | .missingCommand => "a command is missing"
  | .unknownCommand word => "unknown command: " ++ word
  | .unknownOption word => "unknown option: " ++ word
  | .missingValue o => "a value is required for --" ++ o.long
  | .unexpectedValue o => "no value is allowed for --" ++ o
  | .repeated o => "more than one --" ++ o.long
  | .invalidValue o value => "invalid value for --" ++ o.long ++ ": " ++ value

end Rollback
