import Mathlib.Data.List.Forall2
import Rollback.Proofs.Engine.Accounting
import Rollback.Proofs.Engine.Gate

/-! The lines of a run and the outcomes of its report. A pointer is recorded once its line is written, and
a rollback before its line is; so the two sequences are the same, one by one, if the lines of pointers
that were lost are left out and those of rollbacks are kept. -/
namespace Rollback

def Failure.isPrint : Failure → Bool
  | .print _ _ => true
  | _ => false

/-- The lines that were to be written, in order: each line of a rollback, and the lines of pointers that
were not lost. -/
def lines : List Event → List (Handle × String)
  | [] => []
  | .rollback _ (.ok _) :: .print h description _ :: rest => (h, description) :: lines rest
  | .print h description true :: rest => (h, description) :: lines rest
  | _ :: rest => lines rest

/-- The outcome that a line tells of. -/
inductive LineOf : Handle × String → Outcome → Prop where
  | rolledBack (h : Handle) (description : String) :
      LineOf (h, description) ⟨h.identity, .rolledBack description⟩
  | referenced {h : Handle} {ref : WorkloadRef} (classified : classify h = .ok (.pointer ref)) :
      LineOf (h, "references to " ++ ref.qualifiedName)
        ⟨ref.identity, .referenced ref.qualifiedName⟩

def Event.deed? : Event → Option Outcome
  | .rollback h (.ok description) => some ⟨h.identity, .rolledBack description⟩
  | _ => none

namespace Engine

variable {σ : Type} {c : Collaborators σ} {o : Options} {h : Handle} {identity : Identity}
  {item : Fetched} {k : Contribution} {claimed : List Identity} {failure : Failure}

/-- A part of a run in which the lines and the outcomes are in step: what the source gave for failures,
what was called, and what was recorded for it. -/
structure InStep (given : List Failure) (calls : List Event) (outcomes : List Outcome)
    (failures : List Failure) : Prop where
  apart : ∀ rest, lines (calls ++ rest) = lines calls ++ lines rest
  told : List.Forall₂ LineOf (lines calls) outcomes
  deeds : outcomes.filter Outcome.isRolledBack = calls.filterMap Event.deed?
  lost : failures.countP Failure.isPrint =
    calls.countP Event.isLostLine + given.countP Failure.isPrint

theorem InStep.append {given given' failures failures' : List Failure} {calls calls' : List Event}
    {outcomes outcomes' : List Outcome} (first : InStep given calls outcomes failures)
    (second : InStep given' calls' outcomes' failures') :
    InStep (given ++ given') (calls ++ calls') (outcomes ++ outcomes') (failures ++ failures') where
  apart rest := by
    rw [List.append_assoc, first.apart, second.apart, first.apart, List.append_assoc]
  told := by
    rw [first.apart]
    exact List.rel_append first.told second.told
  deeds := by rw [List.filter_append, List.filterMap_append, first.deeds, second.deeds]
  lost := by
    have here := first.lost
    have later := second.lost
    simp only [List.countP_append]
    omega

/-- Nothing was called, and what the source gave was recorded. -/
theorem InStep.quiet (failures : List Failure) : InStep failures [] [] failures where
  apart _ := rfl
  told := .nil
  deeds := rfl
  lost := (Nat.zero_add _).symm

theorem InStep.asked (request : Request) : InStep [] [.resolve request] [] [] where
  apart _ := rfl
  told := .nil
  deeds := rfl
  lost := rfl

theorem InStep.failed (other : failure.isPrint = false) : InStep [] [] [] [failure] where
  apart _ := rfl
  told := .nil
  deeds := rfl
  lost := by simp [other]

theorem lines_gate (o : Options) (h : Handle) (rest : List Event) :
    lines (gate o h ++ rest) = lines rest := by
  unfold gate
  split <;> simp [lines]

theorem deeds_gate (o : Options) (h : Handle) : (gate o h).filterMap Event.deed? = [] := by
  unfold gate
  split <;> rfl

theorem lost_gate (o : Options) (h : Handle) : (gate o h).countP Event.isLostLine = 0 := by
  rw [List.countP_eq_zero]
  intro event member
  simp [isLostLine_of_mem_gate member]

/-- The outcome of a rollback has its line, whether that is written or lost. -/
theorem InStep.rolledBack (o : Options) (h : Handle) (description : String) {written : Bool}
    {failures : List Failure} (counted : failures.countP Failure.isPrint = if written then 0 else 1) :
    InStep [] (gate o h ++ [.rollback h (.ok description), .print h description written])
      [⟨h.identity, .rolledBack description⟩] failures where
  apart rest := by
    rw [List.append_assoc, lines_gate, lines_gate]
    simp [lines]
  told := by
    rw [lines_gate]
    simp only [lines]
    exact .cons (.rolledBack h description) .nil
  deeds := by
    rw [List.filterMap_append, deeds_gate]
    rfl
  lost := by
    rw [List.countP_append, lost_gate, counted]
    cases written <;> rfl

theorem Tried.inStep (tried : Tried c o h h.identity k) :
    InStep [] k.calls k.outcomes k.failure?.toList := by
  cases tried with
  | unregistered none => exact .failed rfl
  | unsupported registered mode cause =>
    constructor
    · exact fun rest => rfl
    · exact .nil
    · rfl
    · rfl
  | failed registered cause =>
    constructor
    · intro rest
      rw [List.append_assoc, lines_gate, lines_gate]
      simp [lines]
    · rw [lines_gate]
      simp [lines]
    · rw [List.filterMap_append, deeds_gate]
      rfl
    · rw [List.countP_append, lost_gate]
      rfl
  | written registered description => exact .rolledBack o h description rfl
  | lost registered description cause => exact .rolledBack o h description rfl

theorem isPrint_of_classify (classified : classify h = .error failure) : failure.isPrint = false := by
  obtain ⟨kind, name, reason, rfl⟩ | ⟨apiVersion, reason, rfl⟩ := fault_of_classify classified <;> rfl

theorem DirectShare.inStep (share : DirectShare c o claimed item k) :
    InStep item.failure?.toList k.calls k.outcomes k.failure?.toList := by
  cases share with
  | unread => exact .quiet _
  | unclassified classified => exact .failed (isPrint_of_classify classified)
  | duplicate classified again => exact .failed rfl
  | lost classified new cause =>
    constructor
    · exact fun rest => rfl
    · exact .nil
    · rfl
    · rfl
  | announced classified new =>
    constructor
    · exact fun rest => rfl
    · exact .cons (.referenced classified) .nil
    · rfl
    · rfl
  | attempted classified new tried => exact tried.inStep

theorem IndirectShare.inStep (share : IndirectShare c o item k) :
    InStep item.failure?.toList k.calls k.outcomes k.failure?.toList := by
  cases share with
  | unread => exact .quiet _
  | attempted tried => exact tried.inStep

variable {request : Request} {world : σ} {items : List Fetched}

end Engine

end Rollback
