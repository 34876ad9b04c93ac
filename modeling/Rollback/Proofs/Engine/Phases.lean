import Rollback.Proofs.Engine.Contributions

/-! The two phases of a run. The source is asked for the request, and once more for the workloads that
pointers of the first phase were found to point at, if there are any. -/
namespace Rollback

def Event.request? : Event → Option Request
  | .resolve request => some request
  | _ => none

def asked (trace : List Event) : List Request := trace.filterMap Event.request?

theorem asked_append (before after : List Event) : asked (before ++ after) = asked before ++ asked after :=
  List.filterMap_append

def Fetched.target? : Fetched → Option WorkloadRef
  | .error _ => none
  | .ok h =>
    match classify h with
    | .ok (.pointer ref) => some ref
    | _ => none

theorem Fetched.target?_eq_some_iff {item : Fetched} {ref : WorkloadRef} :
    item.target? = some ref ↔ ∃ h, item = .ok h ∧ classify h = .ok (.pointer ref) := by
  cases item with
  | error failure => simp [Fetched.target?]
  | ok h =>
    simp only [Fetched.target?, Except.ok.injEq, exists_eq_left']
    constructor
    · intro pointed
      split at pointed
      · next classified =>
        cases pointed
        exact classified
      · contradiction
    · intro classified
      rw [classified]

def WorkloadRef.outcome (ref : WorkloadRef) : Outcome := ⟨ref.identity, .referenced ref.qualifiedName⟩

namespace Contribution

/-- The visit asks the source for nothing. It leaves one reference for each workload that it finds, and
it tries what it rolls back. -/
structure Phased (k : Contribution) : Prop where
  quiet : asked k.calls = []
  references : (k.outcomes.filter fun outcome => !outcome.isRolledBack) =
    k.discovered.map WorkloadRef.outcome
  tried : ∀ outcome ∈ k.outcomes, outcome.isRolledBack = true →
    outcome.identity ∈ (attempts k.calls).map Handle.identity

theorem Phased.failed (failure : Failure) : (failed failure).Phased := by
  constructor
  · rfl
  · rfl
  · nofun

end Contribution

namespace Engine

variable {σ : Type} {c : Collaborators σ} {o : Options} {h : Handle} {item : Fetched} {k : Contribution}
  {claimed : List Identity} {ks : List Contribution}

theorem asked_gate : asked (gate o h) = [] := by
  unfold gate
  split <;> rfl

theorem Tried.phased (tried : Tried c o h h.identity k) : k.Phased := by
  cases tried with
  | unregistered none => exact .failed _
  | unsupported =>
    constructor
    · rfl
    · rfl
    · nofun
  | failed registered cause =>
    constructor
    · rw [asked_append, asked_gate]
      rfl
    · rfl
    · nofun
  | written registered description | lost registered description cause =>
    constructor
    · rw [asked_append, asked_gate]
      rfl
    · rfl
    · intro outcome member _
      obtain rfl := List.mem_singleton.mp member
      simp [attempts, Event.attempt?]

theorem DirectShare.phased (share : DirectShare c o claimed item k) : k.Phased := by
  cases share with
  | unread | unclassified | duplicate => exact .failed _
  | lost classified new cause =>
    constructor
    · rfl
    · rfl
    · nofun
  | announced classified new =>
    constructor
    · rfl
    · rfl
    · intro outcome member rolledBack
      obtain rfl := List.mem_singleton.mp member
      contradiction
  | attempted classified new tried => exact tried.phased

theorem IndirectShare.phased (share : IndirectShare c o item k) : k.Phased ∧ k.discovered = [] := by
  cases share with
  | unread => exact ⟨.failed _, rfl⟩
  | attempted tried =>
    refine ⟨tried.phased, ?_⟩
    cases tried <;> rfl

/-- A workload is found by a visit just when the object points at it, nothing before has claimed it, and
the line for it is written. -/
theorem DirectShare.mem_discovered_iff (share : DirectShare c o claimed item k) (ref : WorkloadRef) :
    ref ∈ k.discovered ↔ item.target? = some ref ∧ ref.identity ∉ claimed ∧
      ∃ h, item = .ok h ∧ .print h ref.notice true ∈ k.calls := by
  cases share with
  | unread => simp
  | unclassified classified => simp
  | duplicate classified again => simp
  | lost classified new cause => simp
  | @announced h found classified new =>
    simp only [List.mem_singleton, Fetched.target?, classified, Option.some.injEq]
    constructor
    · rintro rfl
      exact ⟨rfl, new, h, rfl, rfl⟩
    · rintro ⟨rfl, -⟩
      rfl
  | attempted classified new tried =>
    have none : k.discovered = [] := by cases tried <;> rfl
    simp [none, Fetched.target?, classified]

theorem DirectShare.length_discovered (share : DirectShare c o claimed item k) :
    k.discovered.length ≤ 1 := by
  cases share with
  | attempted classified new tried => cases tried <;> exact Nat.zero_le _
  | announced => exact Nat.le_refl 1
  | _ => exact Nat.zero_le _

theorem asked_of_phased (phased : ∀ k ∈ ks, k.Phased) : asked (ks.flatMap Contribution.calls) = [] := by
  unfold asked
  rw [List.filterMap_flatMap, List.flatMap_eq_nil_iff]
  intro k member
  exact (phased k member).quiet

theorem references_of_phased (phased : ∀ k ∈ ks, k.Phased) :
    ((ks.flatMap Contribution.outcomes).filter fun outcome => !outcome.isRolledBack) =
      (ks.flatMap Contribution.discovered).map WorkloadRef.outcome := by
  rw [List.filter_flatMap, List.map_flatMap]
  apply List.flatMap_congr
  intro k member
  exact (phased k member).references

theorem tried_of_phased (phased : ∀ k ∈ ks, k.Phased) {outcome : Outcome}
    (member : outcome ∈ ks.flatMap Contribution.outcomes) (rolledBack : outcome.isRolledBack = true) :
    outcome.identity ∈ (attempts (ks.flatMap Contribution.calls)).map Handle.identity := by
  obtain ⟨k, there, inside⟩ := List.mem_flatMap.mp member
  obtain ⟨h, tried, same⟩ := List.mem_map.mp ((phased k there).tried outcome inside rolledBack)
  refine List.mem_map.mpr ⟨h, ?_, same⟩
  rw [attempts, List.filterMap_flatMap]
  exact List.mem_flatMap.mpr ⟨k, there, tried⟩

section Runs

variable {request : Request} {world : σ} {items : List Fetched} {p : Progress σ}

theorem phased_of_first :
    ∀ k ∈ firstContributions c o request world items, k.Phased := by
  intro k member
  obtain ⟨i, item, -, -, share⟩ := directShare_of_mem member
  exact share.phased

theorem phased_of_followUp : ∀ k ∈ followUpContributions c o request p, k.Phased ∧ k.discovered = [] := by
  intro k member
  obtain ⟨item, -, share⟩ := indirectShare_of_mem member
  exact share.phased

/-- The source is asked for the request itself, and then for the workloads that were found. -/
theorem asked_of_assembled {answer : Except Failure (List Fetched)} {first second : List Contribution}
    {report : Report} {trace : List Event}
    (whole : Assembled request first second answer report trace) (early : ∀ k ∈ first, k.Phased)
    (late : ∀ k ∈ second, k.Phased) :
    asked trace = request ::
      if report.discovered.isEmpty then [] else [request.followUp report.discovered] := by
  rw [whole.calls, asked_append]
  have first : asked (.resolve request :: first.flatMap Contribution.calls) = [request] :=
    congrArg (request :: ·) (asked_of_phased early)
  rw [first]
  split
  · rfl
  · exact congrArg (fun rest => request :: request.followUp report.discovered :: rest)
      (asked_of_phased late)

theorem references_of_assembled {answer : Except Failure (List Fetched)}
    {first second : List Contribution} {report : Report} {trace : List Event}
    (whole : Assembled request first second answer report trace) (early : ∀ k ∈ first, k.Phased)
    (late : ∀ k ∈ second, k.Phased ∧ k.discovered = []) :
    (report.outcomes.filter fun outcome => !outcome.isRolledBack) =
      report.discovered.map WorkloadRef.outcome := by
  have none : second.flatMap Contribution.discovered = [] :=
    List.flatMap_eq_nil_iff.mpr fun k member => (late k member).2
  rw [whole.outcomes, List.filter_append, references_of_phased early,
    references_of_phased fun k member => (late k member).1, none, whole.discovered]
  exact List.append_nil _

/-- The workloads that wait for the second phase are distinct, and none of them has been tried. -/
theorem waiting_afterDirect (c : Collaborators σ) (o : Options) (request : Request) (world : σ)
    (items : List Fetched) :
    let p := afterDirect c o request world items
    (p.report.discovered.map WorkloadRef.identity).Nodup ∧
      ∀ ref ∈ p.report.discovered, ref.identity ∉ (attempts p.trace).map Handle.identity ∧
        ref.identity ∉ p.report.rolledBack.map Outcome.identity := by
  intro p
  obtain ⟨-, distinct, apart⟩ :=
    List.nodup_append.mp (reserved_afterDirect c o request world items).distinct
  refine ⟨distinct, fun ref member => ?_⟩
  have waits : ref.identity ∈ p.report.discovered.map WorkloadRef.identity :=
    List.mem_map_of_mem member
  refine ⟨fun tried => apart _ tried _ waits rfl, fun done => ?_⟩
  -- what was rolled back was tried, and what waits was not
  obtain ⟨outcome, inside, same⟩ := List.mem_map.mp done
  obtain ⟨recorded, rolledBack⟩ := List.mem_filter.mp inside
  have first := gathered_afterDirect c o request world items
  have tried : ref.identity ∈ (attempts p.trace).map Handle.identity := by
    rw [first.outcomes] at recorded
    rw [first.calls, attempts_append, List.map_append, ← same]
    exact List.mem_append_right _ (tried_of_phased phased_of_first recorded rolledBack)
  exact apart _ tried _ waits rfl

/-- When the second phase has no answer, only that is added to what the first has recorded. -/
theorem report_of_refused {failure : Failure} (answered : (c.resolve request world).1 = .ok items)
    (refused : followUpAnswer c request (afterDirect c o request world items) = .error failure) :
    let p := afterDirect c o request world items
    run c o request world = ⟨.ok { p.report with indirectErrors := [failure] },
      p.trace ++ [.resolve (request.followUp p.report.discovered)],
      (c.resolve (request.followUp p.report.discovered) p.world).2⟩ := by
  intro p
  have clean : p.report.indirectErrors = [] := (gathered_afterDirect c o request world items).other
  rw [run_of_answered answered]
  unfold followUpAnswer at refused
  split at refused
  · contradiction
  · next found =>
    simp only [afterBoth, secondPhase, found, Bool.false_eq_true, if_false, resolve_eq, refused]
    simp only [Progress.withIndirectError, Progress.recorded]
    rw [show (afterDirect c o request world items).report.indirectErrors = [] from clean]
    rfl

/-- What the report of a run and its events say of the two phases: the objects of the first, what their
visits contributed, and the progress after them. -/
structure Phases (c : Collaborators σ) (request : Request) (items : List Fetched)
    (first : List Contribution) (p : Progress σ) (report : Report) (trace : List Event) : Prop where
  discovered : report.discovered = first.flatMap Contribution.discovered
  single (i : Nat) (item : Fetched) (k : Contribution) : items[i]? = some item → first[i]? = some k →
    k.discovered.length ≤ 1
  targets (i : Nat) (item : Fetched) (k : Contribution) : items[i]? = some item → first[i]? = some k →
    ∀ ref, ref ∈ k.discovered ↔ item.target? = some ref ∧
      ref.identity ∉ (items.take i).filterMap Fetched.claim? ∧
      ∃ h, item = .ok h ∧ .print h ref.notice true ∈ k.calls
  distinct : (report.discovered.map WorkloadRef.identity).Nodup
  untried : ∀ ref ∈ report.discovered, ref.identity ∉ (attempts p.trace).map Handle.identity ∧
    ref.identity ∉ p.report.rolledBack.map Outcome.identity
  references : (report.outcomes.filter fun outcome => !outcome.isRolledBack) =
    report.discovered.map fun ref => ⟨ref.identity, .referenced ref.qualifiedName⟩
  requests : asked trace = request :: if report.discovered.isEmpty then []
    else [⟨request.ns, false, report.discovered.map .workload, [], false⟩]
  refused (failure : Failure) : followUpAnswer c request p = .error failure →
    report = { p.report with indirectErrors := [failure] } ∧
      trace = p.trace ++ [.resolve (request.followUp report.discovered)]

theorem phases_of_answered {report : Report} (answered : (c.resolve request world).1 = .ok items)
    (ended : (run c o request world).result = .ok report) :
    Phases c request items (firstContributions c o request world items)
      (afterDirect c o request world items) report (run c o request world).trace := by
  obtain ⟨report', result, found, whole⟩ := assembled_of_answered (o := o) answered
  obtain rfl : report' = report := Except.ok.inj (result.symm.trans ended)
  have first : ∀ k ∈ firstContributions c o request world items, k.Phased := phased_of_first
  have second : ∀ k ∈ followUpContributions c o request (afterDirect c o request world items),
      k.Phased ∧ k.discovered = [] := phased_of_followUp
  obtain ⟨distinct, apart⟩ := waiting_afterDirect c o request world items
  refine {
    discovered := whole.discovered
    single := fun i item k there member => (directShare_of_getElem? there member).length_discovered
    targets := fun i item k there member => (directShare_of_getElem? there member).mem_discovered_iff
    distinct := found ▸ distinct
    untried := found ▸ apart
    references := references_of_assembled whole first second
    requests := asked_of_assembled whole first fun k member => (second k member).1
    refused := fun failure refused => ?_ }
  have ends := report_of_refused answered refused
  exact ⟨Except.ok.inj (result.symm.trans (congrArg Ended.result ends)),
    (congrArg Ended.trace ends).trans (by rw [found])⟩

/-- The source is asked once or twice. A run fails just when its request has no answer, and then nothing
else was done. Otherwise the report names, in order, the targets of the pointers that nothing before
had claimed and whose lines were written, each with one outcome; they are the second request, which
is made only if there are any. -/
theorem run_two_phases (c : Collaborators σ) (o : Options) (request : Request) (world : σ) :
    let ended := run c o request world
    1 ≤ (asked ended.trace).length ∧ (asked ended.trace).length ≤ 2 ∧
    (∀ failure, ended.result = .error failure ↔ (c.resolve request world).1 = .error failure) ∧
    match (c.resolve request world).1 with
    | .error _ => ended.trace = [.resolve request]
    | .ok items => ∃ report, ended.result = .ok report ∧
      Phases c request items (firstContributions c o request world items)
        (afterDirect c o request world items) report ended.trace := by
  intro ended
  cases answer : (c.resolve request world).1 with
  | error failure =>
    have whole := run_of_unanswered (o := o) answer
    have trace : ended.trace = [.resolve request] := congrArg Ended.trace whole
    have result : ended.result = .error failure := congrArg Ended.result whole
    refine ⟨?_, ?_, fun other => by simp only [result, Except.error.injEq], trace⟩ <;>
    simp [trace, asked, Event.request?]
  | ok items =>
    obtain ⟨report, result, -, -⟩ := assembled_of_answered (o := o) answer
    have phases := phases_of_answered answer result
    refine ⟨?_, ?_, fun failure => by rw [show ended.result = .ok report from result]; simp,
      report, result, phases⟩
    · rw [phases.requests]
      exact Nat.succ_le_succ (Nat.zero_le _)
    · rw [phases.requests]
      split <;> simp

end Runs

end Engine

end Rollback
