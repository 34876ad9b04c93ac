import Rollback.Workload.Revision

/-! Choosing a revision of a workload's history. A history lists numbered items in no order; of
several items with one number the first counts. -/
namespace Rollback

/-- Numbered items in the order in which they were found. -/
abbrev History (α : Type) := List (Int × α)

inductive RevisionFault where
  /-- There are fewer than two revisions. -/
  | noPrevious
  | notFound (number : Int)
  deriving DecidableEq, Repr

def RevisionFault.message : RevisionFault → String
  | .noPrevious => "no previous revision"
  | .notFound number => s!"unable to find specified revision {number} in history"

namespace History

variable {α : Type}

/-- The items with the highest number first; items of one number keep their order. -/
def newestFirst (history : History α) : History α := history.mergeSort fun a b => b.1 ≤ a.1

/-- The first item of each run of one number, where `last?` is the number before the list. -/
def firstOfRuns (last? : Option Int) : History α → History α
  | [] => []
  | item :: rest =>
    if last? = some item.1 then firstOfRuns last? rest
    else item :: firstOfRuns (some item.1) rest

def select (history : History α) : RevisionSelector → Except RevisionFault (Int × α)
  | .exact number =>
    match history.find? fun item => item.1 = number with
    | some item => .ok item
    | none => .error (.notFound number)
  | .previous =>
    match firstOfRuns none history.newestFirst with
    | _ :: item :: _ => .ok item
    | _ => .error .noPrevious

end History

end Rollback
