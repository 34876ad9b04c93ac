import Rollback.Text.Quoted

/-! Which revision to go back to, and whether to change anything at all. -/
namespace Rollback

inductive RevisionSelector where
  /-- The one before the current revision. -/
  | previous
  | exact (number : Int)
  deriving DecidableEq, Repr, Inhabited

namespace RevisionSelector

/-- The selector of a `--to-revision` value; none for a negative one. -/
def ofFlag? (value : Int) : Option RevisionSelector :=
  if value = 0 then some .previous else if 0 < value then some (.exact value) else none

def negativeMessage (value : Int) : String := s!"--to-revision must be >= 0, got {value}"

def number : RevisionSelector → Int
  | .previous => 0
  | .exact n => n

end RevisionSelector

/-- What a rollback may change. -/
inductive DryRun where
  /-- It is carried out. -/
  | none
  /-- It is only shown. -/
  | client
  /-- The server checks it without keeping it. -/
  | server
  deriving DecidableEq, Repr, Inhabited

namespace DryRun

/-- What is added to each printed line. -/
def suffix : DryRun → String
  | .none => ""
  | .client => " (dry run)"
  | .server => " (server dry run)"

def ofText? : String → Option DryRun
  | "none" => some .none
  | "" => some .none
  | "client" => some .client
  | "server" => some .server
  | _ => Option.none

def invalidMessage (text : String) : String :=
  "invalid dry-run value " ++ Text.quote text ++ " (expect none, client or server)"

end DryRun

end Rollback
