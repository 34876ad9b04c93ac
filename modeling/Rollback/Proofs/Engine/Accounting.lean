import Rollback.CommandLine.Ending
import Rollback.Proofs.Engine.Contributions

/-! Every item of a run is accounted for once: by an outcome or by a failure, and by both only if it was
rolled back and its line could not be written. A run that reports success has lost nothing. -/
namespace Rollback

def Event.isLostLine : Event → Bool
  | .print _ _ written => !written
  | _ => false

namespace Contribution

/-- The object was rolled back, and the line for it could not be written. -/
def unwritten (k : Contribution) : Bool :=
  k.outcomes.any Outcome.isRolledBack && k.calls.any Event.isLostLine

/-- The last thing done for the object was to write its line. -/
def Announced (k : Contribution) : Prop :=
  ∃ h description, k.calls.getLast? = some (.print h description true)

/-- The item is counted once, and once more if only its line was lost. -/
structure Counted (k : Contribution) : Prop where
  tally : k.outcomes.length + k.failure?.toList.length = 1 + if k.unwritten then 1 else 0
  announced : k.result = .ok () ↔ k.Announced
  written : k.result = .ok () → k.unwritten = false

theorem Counted.failed (failure : Failure) : (failed failure).Counted := by
  constructor
  · rfl
  · simp [Announced]
  · intro ended
    simp at ended

end Contribution

namespace Engine

variable {σ : Type} {c : Collaborators σ} {o : Options} {h : Handle} {identity : Identity}
  {item : Fetched} {k : Contribution} {claimed : List Identity}

theorem isLostLine_of_mem_gate {event : Event} (member : event ∈ gate o h) :
    event.isLostLine = false := by
  unfold gate at member
  split at member
  · obtain rfl := List.mem_singleton.mp member
    rfl
  · contradiction

theorem Tried.counted (tried : Tried c o h identity k) : k.Counted := by
  have gated : (gate o h).any Event.isLostLine = false := by
    rw [List.any_eq_false]
    intro event member
    simp [isLostLine_of_mem_gate member]
  cases tried with
  | unregistered none => exact .failed _
  | unsupported | failed =>
    constructor
    · simp [Contribution.unwritten, Contribution.failure?]
    · simp [Contribution.Announced]
    · nofun
  | written registered description =>
    constructor
    · simp [Contribution.unwritten, Contribution.failure?, gated, Event.isLostLine]
    · simp [Contribution.Announced]
    · simp [Contribution.unwritten, gated, Event.isLostLine]
  | lost registered description cause =>
    constructor
    · simp [Contribution.unwritten, Contribution.failure?, Event.isLostLine, Outcome.isRolledBack]
    · simp [Contribution.Announced]
    · nofun

theorem DirectShare.counted (share : DirectShare c o claimed item k) : k.Counted := by
  cases share with
  | unread | unclassified | duplicate => exact .failed _
  | lost classified new cause =>
    constructor
    · simp [Contribution.unwritten, Contribution.failure?]
    · simp [Contribution.Announced]
    · nofun
  | announced classified new =>
    constructor
    · simp [Contribution.unwritten, Contribution.failure?, Outcome.isRolledBack]
    · simp [Contribution.Announced]
    · simp [Contribution.unwritten, Outcome.isRolledBack]
  | attempted classified new tried => exact tried.counted

theorem IndirectShare.counted (share : IndirectShare c o item k) : k.Counted := by
  cases share with
  | unread => exact .failed _
  | attempted tried => exact tried.counted

/-- Outcomes and failures together are as many as the items and the lines that were lost. -/
theorem tally_of_counted {ks : List Contribution} (counted : ∀ k ∈ ks, k.Counted) :
    (ks.flatMap Contribution.outcomes).length + (ks.filterMap Contribution.failure?).length =
      ks.length + ks.countP Contribution.unwritten := by
  induction ks with
  | nil => rfl
  | cons k rest ih =>
    have here := (counted k List.mem_cons_self).tally
    have later := ih fun k member => counted k (List.mem_cons_of_mem _ member)
    have failures : ((k :: rest).filterMap Contribution.failure?).length =
        k.failure?.toList.length + (rest.filterMap Contribution.failure?).length := by
      cases given : k.failure? <;> simp [given, Nat.add_comm]
    simp only [List.flatMap_cons, List.length_append, List.length_cons, List.countP_cons, failures]
    omega

theorem failure?_eq_none_iff : k.failure? = none ↔ k.result = .ok () := by
  obtain ⟨result, calls, outcomes, discovered⟩ := k
  cases result <;> simp [Contribution.failure?]

end Engine

namespace Report

theorem result_eq_ok_iff (r : Report) (outcomes : List Outcome) :
    r.result = .ok outcomes ↔ outcomes = r.outcomes ∧ r.directErrors = [] ∧ r.indirectErrors = [] := by
  unfold result Failures.ofPhases? Failures.isEmpty Failures.size
  by_cases none : r.directErrors = [] ∧ r.indirectErrors = []
  · simp [none, eq_comm]
  · have some : ¬ (r.directErrors.length + r.indirectErrors.length == 0) = true := by
      simpa using none
    simp only [some, if_false, none, and_false, reduceCtorEq]

theorem status_eq_zero_iff (output : String) (r : Report) :
    (Ending.reported output r).status = 0 ↔ r.result = .ok r.outcomes := by
  rw [result_eq_ok_iff]
  simp [Ending.status, isSuccess]

end Report

namespace Engine

variable {σ : Type}

/-- How a report accounts for the objects of the first phase, for the answer of the second, and for what
the visits of both contributed. -/
structure Accounts (items : List Fetched) (answer : Except Failure (List Fetched))
    (first second : List Contribution) (report : Report) : Prop where
  firstLength : first.length = items.length
  secondLength : second.length = (itemsOf answer).length
  outcomes : report.outcomes = (first ++ second).flatMap Contribution.outcomes
  announced : ∀ k ∈ first ++ second, k.result = .ok () ↔ k.Announced
  total : report.outcomes.length + report.directErrors.length + report.indirectErrors.length =
    items.length + (itemsOf answer).length + (refusal answer).length
      + (first ++ second).countP Contribution.unwritten
  directErrors : report.directErrors = first.filterMap Contribution.failure?
  indirectErrors : report.indirectErrors = refusal answer ++ second.filterMap Contribution.failure?
  succeeds (outcomes : List Outcome) : report.result = .ok outcomes ↔
    outcomes = report.outcomes ∧ refusal answer = [] ∧ ∀ k ∈ first ++ second, k.result = .ok ()
  complete : report.result = .ok report.outcomes →
    report.outcomes.length = items.length + (itemsOf answer).length
  status (output : String) :
    (Ending.reported output report).status = 0 ↔ report.result = .ok report.outcomes

theorem accounts_of_assembled {request : Request} {items : List Fetched}
    {answer : Except Failure (List Fetched)} {first second : List Contribution} {report : Report}
    {trace : List Event} (whole : Assembled request first second answer report trace)
    (counted : ∀ k ∈ first ++ second, k.Counted) (firstLength : first.length = items.length)
    (secondLength : second.length = (itemsOf answer).length) :
    Accounts items answer first second report := by
  have outcomes : report.outcomes = (first ++ second).flatMap Contribution.outcomes := by
    rw [whole.outcomes, List.flatMap_append]
  have total : report.outcomes.length + report.directErrors.length + report.indirectErrors.length =
      items.length + (itemsOf answer).length + (refusal answer).length
        + (first ++ second).countP Contribution.unwritten := by
    have tally := tally_of_counted counted
    rw [List.filterMap_append, List.length_append, List.length_append] at tally
    rw [outcomes, whole.directErrors, whole.indirectErrors, List.length_append]
    omega
  have succeeds (outcomes : List Outcome) : report.result = .ok outcomes ↔
      outcomes = report.outcomes ∧ refusal answer = [] ∧ ∀ k ∈ first ++ second, k.result = .ok () := by
    rw [Report.result_eq_ok_iff, whole.directErrors, whole.indirectErrors]
    simp only [List.append_eq_nil_iff, List.filterMap_eq_nil_iff, List.forall_mem_append,
      failure?_eq_none_iff]
    constructor
    · rintro ⟨same, direct, refused, indirect⟩
      exact ⟨same, refused, direct, indirect⟩
    · rintro ⟨same, refused, direct, indirect⟩
      exact ⟨same, direct, refused, indirect⟩
  refine ⟨firstLength, secondLength, outcomes, fun k member => (counted k member).announced, total,
    whole.directErrors, whole.indirectErrors, succeeds, ?_, fun output => report.status_eq_zero_iff output⟩
  intro success
  obtain ⟨-, direct, indirect⟩ := (report.result_eq_ok_iff _).mp success
  obtain ⟨-, refused, fine⟩ := (succeeds _).mp success
  -- a lost line is a failure, and there is none
  have none : (first ++ second).countP Contribution.unwritten = 0 := by
    rw [List.countP_eq_zero]
    intro k member
    simp [(counted k member).written (fine k member)]
  rw [direct, indirect, refused, none] at total
  simpa using total

/-- Outcomes and failures of a run are as many as the items of both phases, with one more failure when the
second phase has no answer, and one more entry for each rollback whose line was lost. The failures of
each phase stand in its list, in order. The run succeeds just when every visit ended with its line
written and the second phase, if there was one, had its answer; then each item has its outcome. -/
theorem run_accounts (c : Collaborators σ) (o : Options) (request : Request) (world : σ)
    (report : Report) (ended : (run c o request world).result = .ok report) :
    ∃ items, (c.resolve request world).1 = .ok items ∧
      Accounts items (followUpAnswer c request (afterDirect c o request world items))
        (firstContributions c o request world items)
        (followUpContributions c o request (afterDirect c o request world items)) report := by
  obtain ⟨items, answered⟩ := answered_of_run ended
  refine ⟨items, answered, ?_⟩
  obtain ⟨report', ended', -, whole⟩ := assembled_of_answered (o := o) answered
  obtain rfl : report' = report := Except.ok.inj (ended'.symm.trans ended)
  have counted : ∀ k ∈ firstContributions c o request world items ++
      followUpContributions c o request (afterDirect c o request world items), k.Counted := by
    intro k member
    rcases List.mem_append.mp member with early | late
    · obtain ⟨i, item, -, -, share⟩ := directShare_of_mem early
      exact share.counted
    · obtain ⟨item, -, share⟩ := indirectShare_of_mem late
      exact share.counted
  exact accounts_of_assembled whole counted (length_firstContributions c o request world items)
    (length_contributions _ _)

end Engine

/-! The crowd before a printer that loses every other line: those of the first pointer and of the
deployment that is named twice. -/
namespace Crowd

def faltering : Collaborators Nat :=
  { collaborators with
    print := fun _ _ lines =>
      (if lines % 2 = 0 then .error (.plain "broken pipe") else .ok (), lines + 1) }

def faltered : Engine.Ended Nat := Engine.run faltering default request 0

end Crowd

theorem run_accounts_faltered :
    ∃ report, Crowd.faltered.result = .ok report ∧ report.directErrors.length = 5 ∧
      report.outcomes.length + report.directErrors.length + report.indirectErrors.length
        = 6 + 1 + 0 + 1 := by
  obtain ⟨report, ended⟩ : ∃ report, Crowd.faltered.result = .ok report := ⟨_, rfl⟩
  obtain ⟨items, answered, accounts⟩ := Engine.run_accounts _ _ _ _ report ended
  obtain rfl : Crowd.items = items := Except.ok.inj answered
  refine ⟨report, ended, ?_, ?_⟩
  · rw [accounts.directErrors]
    decide +kernel
  · rw [accounts.total]
    decide +kernel

end Rollback
