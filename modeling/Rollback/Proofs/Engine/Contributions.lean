import Rollback.Proofs.Engine.Deduplication

/-! What each visit adds to a run, apart from what was there before it. The report and the events of a
run are the contributions of its visits, one after the other, so that a statement about all runs comes
down to the few ways in which one visit can contribute. -/
namespace Rollback

/-- How one visit ended, and what it added to the run. -/
structure Contribution where
  result : Except Failure Unit
  calls : List Event
  outcomes : List Outcome
  discovered : List WorkloadRef

namespace Contribution

def failure? (k : Contribution) : Option Failure :=
  match k.result with
  | .ok () => none
  | .error failure => some failure

/-- A visit that did nothing but fail. -/
@[simp] def failed (failure : Failure) : Contribution := ⟨.error failure, [], [], []⟩

/-- Two parts of one visit; it ends as the second part ends. -/
def andThen (k l : Contribution) : Contribution :=
  ⟨l.result, k.calls ++ l.calls, k.outcomes ++ l.outcomes, k.discovered ++ l.discovered⟩

end Contribution

namespace Engine

variable {σ : Type} {c : Collaborators σ} {o : Options} {h : Handle} {p q r : Progress σ}
  {k l : Contribution} {description : String} {identity : Identity} {item : Fetched}
  {after : Except Failure Unit × Progress σ}

/-- The question that a server dry run asks before it calls a strategy. -/
def gate (o : Options) (h : Handle) : List Event :=
  if o.dryRun = .server then [.verify h.gvk true] else []

inductive Tried (c : Collaborators σ) (o : Options) (h : Handle) (identity : Identity) :
    Contribution → Prop where
  | unregistered (none : c.strategies.find? h.gvk.group h.gvk.kind = none) :
      Tried c o h identity (.failed (.noStrategy h.gvk.group h.gvk.kind))
  | unsupported (registered : (c.strategies.find? h.gvk.group h.gvk.kind).isSome)
      (mode : o.dryRun = .server) (cause : Cause) :
      Tried c o h identity ⟨.error (.dryRunUnsupported h.gvk cause), [.verify h.gvk false], [], []⟩
  | failed (registered : (c.strategies.find? h.gvk.group h.gvk.kind).isSome) (cause : Cause) :
      Tried c o h identity
        ⟨.error (.strategy identity cause), gate o h ++ [.rollback h (.error cause)], [], []⟩
  | written (registered : (c.strategies.find? h.gvk.group h.gvk.kind).isSome)
      (description : String) :
      Tried c o h identity
        ⟨.ok (), gate o h ++ [.rollback h (.ok description), .print h description true],
          [⟨identity, .rolledBack description⟩], []⟩
  | lost (registered : (c.strategies.find? h.gvk.group h.gvk.kind).isSome) (description : String)
      (cause : Cause) :
      Tried c o h identity
        ⟨.error (.print h.displayName cause),
          gate o h ++ [.rollback h (.ok description), .print h description false],
          [⟨identity, .rolledBack description⟩], []⟩

/-- What a visit of the first phase can contribute once the given identities have been claimed. -/
inductive DirectShare (c : Collaborators σ) (o : Options) (claimed : List Identity) :
    Fetched → Contribution → Prop where
  | unread {failure : Failure} : DirectShare c o claimed (.error failure) (.failed failure)
  | unclassified {h : Handle} {failure : Failure} (classified : classify h = .error failure) :
      DirectShare c o claimed (.ok h) (.failed failure)
  | duplicate {h : Handle} {target : Target} (classified : classify h = .ok target)
      (again : target.identity ∈ claimed) :
      DirectShare c o claimed (.ok h) (.failed (.duplicateTarget target.identity))
  | lost {h : Handle} {ref : WorkloadRef} (classified : classify h = .ok (.pointer ref))
      (new : ref.identity ∉ claimed) (cause : Cause) :
      DirectShare c o claimed (.ok h)
        ⟨.error (.print h.displayName cause), [.print h ref.notice false], [], []⟩
  | announced {h : Handle} {ref : WorkloadRef} (classified : classify h = .ok (.pointer ref))
      (new : ref.identity ∉ claimed) :
      DirectShare c o claimed (.ok h)
        ⟨.ok (), [.print h ref.notice true], [⟨ref.identity, .referenced ref.qualifiedName⟩], [ref]⟩
  | attempted {h : Handle} {k : Contribution} (classified : classify h = .ok (.workload h.identity))
      (new : h.identity ∉ claimed) (tried : Tried c o h h.identity k) :
      DirectShare c o claimed (.ok h) k

inductive IndirectShare (c : Collaborators σ) (o : Options) : Fetched → Contribution → Prop where
  | unread {failure : Failure} : IndirectShare c o (.error failure) (.failed failure)
  | attempted {h : Handle} {k : Contribution} (tried : Tried c o h h.identity k) :
      IndirectShare c o (.ok h) k

theorem DirectShare.of_claimed {claimed claimed' : List Identity}
    (share : DirectShare c o claimed item k) (same : ∀ x, x ∈ claimed ↔ x ∈ claimed') :
    DirectShare c o claimed' item k := by
  cases share with
  | unread => exact .unread
  | unclassified classified => exact .unclassified classified
  | duplicate classified again => exact .duplicate classified ((same _).mp again)
  | lost classified new cause => exact .lost classified (mt (same _).mpr new) cause
  | announced classified new => exact .announced classified (mt (same _).mpr new)
  | attempted classified new tried => exact .attempted classified (mt (same _).mpr new) tried

/-- The contribution is all that a visit added at the ends of the lists. -/
structure Adds (p : Progress σ) (k : Contribution) (after : Except Failure Unit × Progress σ) :
    Prop where
  result : after.1 = k.result
  calls : after.2.trace = p.trace ++ k.calls
  outcomes : after.2.report.outcomes = p.report.outcomes ++ k.outcomes
  discovered : after.2.report.discovered = p.report.discovered ++ k.discovered
  directErrors : after.2.report.directErrors = p.report.directErrors
  indirectErrors : after.2.report.indirectErrors = p.report.indirectErrors

def contribution (p : Progress σ) (after : Except Failure Unit × Progress σ) : Contribution where
  result := after.1
  calls := after.2.trace.drop p.trace.length
  outcomes := after.2.report.outcomes.drop p.report.outcomes.length
  discovered := after.2.report.discovered.drop p.report.discovered.length

theorem Adds.contribution_eq (adds : Adds p k after) : contribution p after = k := by
  simp only [contribution, adds.result, adds.calls, adds.outcomes, adds.discovered,
    List.drop_left]

theorem Adds.of_seen {seen : Seen} (adds : Adds { p with seen := seen } k after) : Adds p k after :=
  ⟨adds.result, adds.calls, adds.outcomes, adds.discovered, adds.directErrors, adds.indirectErrors⟩

theorem Adds.stopped (failure : Failure) : Adds p (.failed failure) (.error failure, p) := by
  constructor <;> simp

theorem Adds.recorded (result : Except Failure Unit) (event : Event) (world : σ) :
    Adds p ⟨result, [event], [], []⟩ (result, p.recorded event world) := by
  constructor <;> simp

theorem Adds.trans {result : Except Failure Unit} (first : Adds p k (result, q))
    (second : Adds q l after) : Adds p (k.andThen l) after where
  result := second.result
  calls := by rw [second.calls, show q.trace = _ from first.calls, List.append_assoc]; rfl
  outcomes := by
    rw [second.outcomes, show q.report.outcomes = _ from first.outcomes, List.append_assoc]; rfl
  discovered := by
    rw [second.discovered, show q.report.discovered = _ from first.discovered, List.append_assoc]; rfl
  directErrors := second.directErrors.trans first.directErrors
  indirectErrors := second.indirectErrors.trans first.indirectErrors

theorem Adds.outcome (event : Event) (world : σ) (identity : Identity) (deed : Deed) :
    Adds p ⟨.ok (), [event], [⟨identity, deed⟩], []⟩
      (.ok (), (p.recorded event world).withOutcome identity deed) := by
  constructor <;> simp

theorem Checked.adds (checked : Checked c o h p q) : Adds p ⟨.ok (), gate o h, [], []⟩ (.ok (), q) := by
  cases checked with
  | unasked mode =>
    rw [gate, if_neg mode]
    constructor <;> simp
  | supported mode answer =>
    rw [gate, if_pos mode]
    exact .recorded _ _ _

theorem Attempt.adds (attempt : Attempt c o h identity p after) :
    ∃ k, Tried c o h identity k ∧ Adds p k after := by
  cases attempt with
  | unregistered none => exact ⟨_, .unregistered none, .stopped _⟩
  | unsupported found mode answer =>
    exact ⟨_, .unsupported (Option.isSome_of_eq_some found) mode _, .recorded _ _ _⟩
  | failed found checked answer =>
    exact ⟨_, .failed (Option.isSome_of_eq_some found) _, checked.adds.trans (.recorded _ _ _)⟩
  | @done strategy description q world _ found checked answer printed =>
    have registered := Option.isSome_of_eq_some found
    -- the outcome stands before the line, so it is there whether or not the line is lost
    have tried := checked.adds.trans (.outcome (.rollback h (.ok description)) world identity
      (.rolledBack description))
    cases printed with
    | written line =>
      refine ⟨_, .written registered description, ?_⟩
      simpa [Contribution.andThen] using tried.trans (.recorded _ _ _)
    | @lost cause _ line =>
      refine ⟨_, .lost registered description cause, ?_⟩
      simpa [Contribution.andThen] using tried.trans (.recorded _ _ _)

theorem DirectVisit.adds (visit : DirectVisit c o p item after) :
    ∃ k, DirectShare c o p.seen.identities item k ∧ Adds p k after := by
  have unclaimed {x : Identity} (new : p.seen.contains x = false) : x ∉ p.seen.identities := by
    simpa [Seen.contains] using new
  cases visit with
  | unread => exact ⟨_, .unread, .stopped _⟩
  | unclassified classified => exact ⟨_, .unclassified classified, .stopped _⟩
  | duplicate classified seen =>
    exact ⟨_, .duplicate classified (by simpa [Seen.contains] using seen), .stopped _⟩
  | unannounced classified new printed =>
    cases printed with
    | @lost cause _ answer =>
      exact ⟨_, .lost classified (unclaimed new) cause, Adds.of_seen (.recorded _ _ _)⟩
  | @announced h ref q classified new printed =>
    cases printed with
    | @written world answer =>
      refine ⟨_, .announced classified (unclaimed new), ?_⟩
      constructor <;> simp
  | attempted classified new attempt =>
    obtain rfl := identity_of_workload classified
    obtain ⟨k, tried, adds⟩ := attempt.adds
    exact ⟨k, .attempted classified (unclaimed new) tried, adds.of_seen⟩

theorem IndirectVisit.adds (visit : IndirectVisit c o p item after) :
    ∃ k, IndirectShare c o item k ∧ Adds p k after := by
  cases visit with
  | unread => exact ⟨_, .unread, .stopped _⟩
  | attempted attempt =>
    obtain ⟨k, tried, adds⟩ := attempt.adds
    exact ⟨k, .attempted tried, adds⟩

/-- What the visits of one phase contribute, object by object. -/
def contributions (share : Progress σ → Fetched → Contribution)
    (step : Progress σ → Fetched → Progress σ) : Progress σ → List Fetched → List Contribution
  | _, [] => []
  | p, item :: rest => share p item :: contributions share step (step p item) rest

/-- What is added by a phase that keeps its own failures in one list of the report and leaves the
other list alone. -/
structure Gathered (own other : Report → List Failure) (p : Progress σ) (ks : List Contribution)
    (q : Progress σ) : Prop where
  calls : q.trace = p.trace ++ ks.flatMap Contribution.calls
  outcomes : q.report.outcomes = p.report.outcomes ++ ks.flatMap Contribution.outcomes
  discovered : q.report.discovered = p.report.discovered ++ ks.flatMap Contribution.discovered
  own : own q.report = own p.report ++ ks.filterMap Contribution.failure?
  other : other q.report = other p.report

section Phases

variable {share : Progress σ → Fetched → Contribution} {step : Progress σ → Fetched → Progress σ}
  {own other : Report → List Failure} {ks : List Contribution}

theorem length_contributions (p : Progress σ) (items : List Fetched) :
    (contributions share step p items).length = items.length := by
  induction items generalizing p with
  | nil => rfl
  | cons item rest ih => simp only [contributions, List.length_cons, ih]

theorem getElem?_contributions (p : Progress σ) (items : List Fetched) (i : Nat) :
    (contributions share step p items)[i]? =
      items[i]?.map (share ((items.take i).foldl step p)) := by
  induction items generalizing p i with
  | nil => rfl
  | cons item rest ih =>
    cases i with
    | zero => rfl
    | succ i => simpa [contributions] using ih (step p item) i

theorem Gathered.cons (first : Gathered own other p [k] q) (rest : Gathered own other q ks r) :
    Gathered own other p (k :: ks) r where
  calls := by simp [rest.calls, first.calls]
  outcomes := by simp [rest.outcomes, first.outcomes]
  discovered := by simp [rest.discovered, first.discovered]
  own := by rw [rest.own, first.own, List.append_assoc, ← List.filterMap_append]; rfl
  other := rest.other.trans first.other

theorem gathered_foldl (each : ∀ p item, Gathered own other p [share p item] (step p item))
    (p : Progress σ) (items : List Fetched) :
    Gathered own other p (contributions share step p items) (items.foldl step p) := by
  induction items generalizing p with
  | nil => constructor <;> simp [contributions]
  | cons item rest ih => exact (each p item).cons (ih (step p item))

end Phases

def directContributions (c : Collaborators σ) (o : Options) :
    Progress σ → List Fetched → List Contribution :=
  contributions (fun p item => contribution p (visitDirect c o item p)) (stepDirect c o)

def indirectContributions (c : Collaborators σ) (o : Options) :
    Progress σ → List Fetched → List Contribution :=
  contributions (fun p item => contribution p (visitIndirect c o item p)) (stepIndirect c o)

/-- A step adds a visit and records the failure that the visit ended in. -/
theorem Adds.gathered {own other : Report → List Failure} (adds : Adds p k after)
    (kept : own after.2.report = own p.report) (left : other after.2.report = other p.report)
    (calls : r.trace = after.2.trace) (outcomes : r.report.outcomes = after.2.report.outcomes)
    (discovered : r.report.discovered = after.2.report.discovered)
    (recorded : own r.report = own after.2.report ++ k.failure?.toList)
    (rest : other r.report = other after.2.report) : Gathered own other p [k] r := by
  constructor
  · simp [calls, adds.calls]
  · simp [outcomes, adds.outcomes]
  · simp [discovered, adds.discovered]
  · rw [recorded, kept]
    cases given : k.failure? <;> simp [given]
  · exact rest.trans left

theorem Adds.failure?_eq (adds : Adds p k after) :
    k.failure? = match after.1 with
      | .ok () => none
      | .error failure => some failure := by
  rw [adds.result]
  rfl

theorem gathered_stepDirect (p : Progress σ) (item : Fetched) :
    Gathered Report.directErrors Report.indirectErrors p
      [contribution p (visitDirect c o item p)] (stepDirect c o p item) := by
  obtain ⟨k, -, adds⟩ := (visitDirect_visit c o item p).adds
  rw [adds.contribution_eq]
  unfold stepDirect
  have failure := adds.failure?_eq
  rcases ends : visitDirect c o item p with ⟨_ | _, q⟩ <;> rw [ends] at adds failure
  · refine adds.gathered adds.directErrors adds.indirectErrors rfl rfl rfl ?_ rfl
    rw [failure]
    rfl
  · refine adds.gathered adds.directErrors adds.indirectErrors rfl rfl rfl ?_ rfl
    rw [failure]
    exact (List.append_nil _).symm

theorem gathered_stepIndirect (p : Progress σ) (item : Fetched) :
    Gathered Report.indirectErrors Report.directErrors p
      [contribution p (visitIndirect c o item p)] (stepIndirect c o p item) := by
  obtain ⟨k, -, adds⟩ := (visitIndirect_visit c o item p).adds
  rw [adds.contribution_eq]
  unfold stepIndirect
  have failure := adds.failure?_eq
  rcases ends : visitIndirect c o item p with ⟨_ | _, q⟩ <;> rw [ends] at adds failure
  · refine adds.gathered adds.indirectErrors adds.directErrors rfl rfl rfl ?_ rfl
    rw [failure]
    rfl
  · refine adds.gathered adds.indirectErrors adds.directErrors rfl rfl rfl ?_ rfl
    rw [failure]
    exact (List.append_nil _).symm

def itemsOf : Except Failure (List Fetched) → List Fetched
  | .ok items => items
  | .error _ => []

def refusal : Except Failure (List Fetched) → List Failure
  | .ok _ => []
  | .error failure => [failure]

def firstContributions (c : Collaborators σ) (o : Options) (request : Request) (world : σ)
    (items : List Fetched) : List Contribution :=
  directContributions c o (resolve c request (.start world)).2 items

/-- What the objects contribute that come back for the workloads found before. -/
def followUpContributions (c : Collaborators σ) (o : Options) (request : Request) (p : Progress σ) :
    List Contribution :=
  indirectContributions c o (resolve c (request.followUp p.report.discovered) p).2
    (itemsOf (followUpAnswer c request p))

/-- A report and the events of its run are what the visits of both phases contributed, in order. The
source is asked again only for workloads that were found. -/
structure Assembled (request : Request) (first second : List Contribution)
    (answer : Except Failure (List Fetched)) (report : Report) (trace : List Event) : Prop where
  calls : trace = .resolve request :: first.flatMap Contribution.calls ++
    if report.discovered.isEmpty then []
    else .resolve (request.followUp report.discovered) :: second.flatMap Contribution.calls
  outcomes : report.outcomes =
    first.flatMap Contribution.outcomes ++ second.flatMap Contribution.outcomes
  discovered : report.discovered = first.flatMap Contribution.discovered
  directErrors : report.directErrors = first.filterMap Contribution.failure?
  indirectErrors : report.indirectErrors = refusal answer ++ second.filterMap Contribution.failure?

/-- The progress of a run when the object at a place is visited. -/
def before (c : Collaborators σ) (o : Options) (request : Request) (world : σ) (items : List Fetched)
    (i : Nat) : Progress σ :=
  (items.take i).foldl (stepDirect c o) (resolve c request (.start world)).2

section Runs

variable {request : Request} {world : σ} {items : List Fetched} {i : Nat} {x : Identity}

theorem seen_foldl_stepDirect (items : List Fetched) (p : Progress σ) (x : Identity) :
    (items.foldl (stepDirect c o) p).seen.contains x = true ↔
      p.seen.contains x = true ∨ x ∈ items.filterMap Fetched.claim? := by
  induction items generalizing p with
  | nil => simp
  | cons item rest ih =>
    rw [List.foldl_cons, ih, seen_stepDirect, or_assoc]
    simp only [List.mem_filterMap, List.mem_cons, exists_eq_or_imp]

theorem seen_before :
    (before c o request world items i).seen.contains x = true ↔
      x ∈ (items.take i).filterMap Fetched.claim? := by
  rw [before, seen_foldl_stepDirect]
  simp

theorem getElem?_firstContributions (c : Collaborators σ) (o : Options) (request : Request) (world : σ)
    (items : List Fetched) (i : Nat) :
    (firstContributions c o request world items)[i]? = items[i]?.map fun item =>
      contribution (before c o request world items i)
        (visitDirect c o item (before c o request world items i)) :=
  getElem?_contributions _ _ _

/-- The contribution of an object depends on what the objects before it claimed. -/
theorem directShare_of_getElem? (there : items[i]? = some item)
    (found : (firstContributions c o request world items)[i]? = some k) :
    DirectShare c o ((items.take i).filterMap Fetched.claim?) item k := by
  rw [getElem?_firstContributions, there, Option.map_some, Option.some.injEq] at found
  obtain ⟨k', share, adds⟩ :=
    (visitDirect_visit c o item (before c o request world items i)).adds
  rw [adds.contribution_eq] at found
  subst found
  -- the set of identities at this place is what the objects before it have claimed
  refine share.of_claimed fun x => ?_
  rw [← seen_before (c := c) (o := o)]
  exact List.contains_iff_mem.symm

theorem length_firstContributions (c : Collaborators σ) (o : Options) (request : Request) (world : σ)
    (items : List Fetched) : (firstContributions c o request world items).length = items.length :=
  length_contributions _ _

theorem directShare_of_mem (member : k ∈ firstContributions c o request world items) :
    ∃ i item, items[i]? = some item ∧ (firstContributions c o request world items)[i]? = some k ∧
      DirectShare c o ((items.take i).filterMap Fetched.claim?) item k := by
  obtain ⟨i, found⟩ := List.getElem?_of_mem member
  have inside : i < items.length := by
    rw [← length_firstContributions c o request world]
    exact (List.getElem?_eq_some_iff.mp found).1
  have there := List.getElem?_eq_getElem inside
  exact ⟨i, items[i], there, found, directShare_of_getElem? there found⟩

theorem indirectShare_of_getElem?
    (there : (itemsOf (followUpAnswer c request p))[i]? = some item)
    (found : (followUpContributions c o request p)[i]? = some k) : IndirectShare c o item k := by
  rw [followUpContributions, indirectContributions, getElem?_contributions, there, Option.map_some,
    Option.some.injEq] at found
  obtain ⟨k', share, adds⟩ := (visitIndirect_visit c o item _).adds
  rw [adds.contribution_eq] at found
  exact found ▸ share

theorem length_followUpContributions (c : Collaborators σ) (o : Options) (request : Request)
    (p : Progress σ) : (followUpContributions c o request p).length =
      (itemsOf (followUpAnswer c request p)).length := length_contributions _ _

theorem indirectShare_of_mem (member : k ∈ followUpContributions c o request p) :
    ∃ item ∈ itemsOf (followUpAnswer c request p), IndirectShare c o item k := by
  obtain ⟨i, found⟩ := List.getElem?_of_mem member
  have inside : i < (itemsOf (followUpAnswer c request p)).length := by
    rw [← length_followUpContributions c o request p]
    exact (List.getElem?_eq_some_iff.mp found).1
  have there := List.getElem?_eq_getElem inside
  exact ⟨_, List.getElem_mem inside, indirectShare_of_getElem? there found⟩

theorem gathered_afterDirect (c : Collaborators σ) (o : Options) (request : Request) (world : σ)
    (items : List Fetched) :
    Gathered Report.directErrors Report.indirectErrors (resolve c request (.start world)).2
      (firstContributions c o request world items) (afterDirect c o request world items) :=
  gathered_foldl gathered_stepDirect _ items

theorem gathered_afterBoth (c : Collaborators σ) (o : Options) (request : Request) (p : Progress σ) :
    let second := followUpContributions c o request p
    (afterBoth c o request p).trace = p.trace ++ (if p.report.discovered.isEmpty then []
      else .resolve (request.followUp p.report.discovered) :: second.flatMap Contribution.calls) ∧
    (afterBoth c o request p).report.outcomes =
      p.report.outcomes ++ second.flatMap Contribution.outcomes ∧
    (afterBoth c o request p).report.indirectErrors = p.report.indirectErrors ++
      (refusal (followUpAnswer c request p) ++ second.filterMap Contribution.failure?) := by
  unfold afterBoth followUpContributions followUpAnswer
  by_cases none : p.report.discovered.isEmpty
  · simp [none, itemsOf, refusal, indirectContributions, contributions]
  · simp only [none, Bool.false_eq_true, if_false, secondPhase]
    cases answer : (c.resolve (request.followUp p.report.discovered) p.world).1 with
    | error failure =>
      simp [answer, itemsOf, refusal, indirectContributions, contributions]
    | ok found =>
      simp only [resolve_eq, answer, itemsOf, refusal, List.nil_append]
      have second := gathered_foldl (gathered_stepIndirect (c := c) (o := o))
        (p.recorded (.resolve (request.followUp p.report.discovered))
          (c.resolve (request.followUp p.report.discovered) p.world).2) found
      refine ⟨?_, second.outcomes, second.own⟩
      rw [second.calls, Progress.recorded, List.append_assoc]
      rfl

/-- A run whose request is answered ends with the report that its visits add up to. -/
theorem assembled_of_answered (answered : (c.resolve request world).1 = .ok items) :
    let p := afterDirect c o request world items
    ∃ report, (run c o request world).result = .ok report ∧
      report.discovered = p.report.discovered ∧
      Assembled request (firstContributions c o request world items)
        (followUpContributions c o request p) (followUpAnswer c request p) report
        (run c o request world).trace := by
  intro p
  rw [run_of_answered answered]
  have first := gathered_afterDirect c o request world items
  obtain ⟨calls, outcomes, indirect⟩ := gathered_afterBoth c o request p
  have found := discovered_afterBoth (c := c) (o := o) request p
  refine ⟨_, rfl, found, ?_⟩
  constructor
  · rw [found]
    exact calls.trans (by rw [first.calls]; rfl)
  · rw [outcomes, first.outcomes]
    rfl
  · exact found.trans (by rw [first.discovered]; rfl)
  · rw [directErrors_afterBoth, first.own]
    rfl
  · rw [indirect, first.other]
    rfl

end Runs

end Engine

end Rollback
