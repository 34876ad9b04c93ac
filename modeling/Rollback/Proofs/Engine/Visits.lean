import Rollback.Engine.Run

/-! Everything that one visit of the engine can do, as relations between the progress before and after
it. What a run keeps or counts is read off these cases; beyond this module the functions themselves are
opened only to compare two visits. -/
namespace Rollback

/-- The identity that a visited object claims. -/
def Target.identity : Target → Identity
  | .workload identity => identity
  | .pointer ref => ref.identity

def handles (items : List Fetched) : List Handle := items.filterMap Except.toOption

def Event.attempt? : Event → Option Handle
  | .rollback h _ => some h
  | _ => none

def attempts (trace : List Event) : List Handle := trace.filterMap Event.attempt?

@[simp] theorem attempts_append (before after : List Event) :
    attempts (before ++ after) = attempts before ++ attempts after := List.filterMap_append

/-- The words for an object that points at a workload. -/
def WorkloadRef.notice (ref : WorkloadRef) : String := "references to " ++ ref.qualifiedName

theorem handles_cons (item : Fetched) (rest : List Fetched) :
    handles (item :: rest) = handles [item] ++ handles rest := by
  simp only [handles, ← List.filterMap_append, List.singleton_append]

namespace Engine

variable {σ : Type} {c : Collaborators σ} {o : Options} {h : Handle} {p q : Progress σ}

/-- The progress with which a strategy may be called: only a server dry run asks first, and goes on
only if the answer is yes. -/
inductive Checked (c : Collaborators σ) (o : Options) (h : Handle) (p : Progress σ) :
    Progress σ → Prop where
  | unasked (mode : o.dryRun ≠ .server) : Checked c o h p p
  | supported {world : σ} (mode : o.dryRun = .server)
      (answer : c.verify h.gvk p.world = (.ok (), world)) :
      Checked c o h p (p.recorded (.verify h.gvk true) world)

inductive Printed (c : Collaborators σ) (h : Handle) (description : String) (p : Progress σ) :
    Except Failure Unit × Progress σ → Prop where
  | written {world : σ} (answer : c.print h description p.world = (.ok (), world)) :
      Printed c h description p (.ok (), p.recorded (.print h description true) world)
  | lost {cause : Cause} {world : σ} (answer : c.print h description p.world = (.error cause, world)) :
      Printed c h description p
        (.error (.print h.displayName cause), p.recorded (.print h description false) world)

/-- Rolling one object back. -/
inductive Attempt (c : Collaborators σ) (o : Options) (h : Handle) (identity : Identity)
    (p : Progress σ) : Except Failure Unit × Progress σ → Prop where
  | unregistered (none : c.strategies.find? h.gvk.group h.gvk.kind = none) :
      Attempt c o h identity p (.error (.noStrategy h.gvk.group h.gvk.kind), p)
  | unsupported {strategy : Strategy σ} {cause : Cause} {world : σ}
      (found : c.strategies.find? h.gvk.group h.gvk.kind = some strategy) (mode : o.dryRun = .server)
      (answer : c.verify h.gvk p.world = (.error cause, world)) :
      Attempt c o h identity p
        (.error (.dryRunUnsupported h.gvk cause), p.recorded (.verify h.gvk false) world)
  | failed {strategy : Strategy σ} {cause : Cause} {q : Progress σ} {world : σ}
      (found : c.strategies.find? h.gvk.group h.gvk.kind = some strategy) (checked : Checked c o h p q)
      (answer : strategy h o.revision o.dryRun q.world = (.error cause, world)) :
      Attempt c o h identity p
        (.error (.strategy identity cause), q.recorded (.rollback h (.error cause)) world)
  | done {strategy : Strategy σ} {description : String} {q : Progress σ} {world : σ}
      {after : Except Failure Unit × Progress σ}
      (found : c.strategies.find? h.gvk.group h.gvk.kind = some strategy) (checked : Checked c o h p q)
      (answer : strategy h o.revision o.dryRun q.world = (.ok description, world))
      (printed : Printed c h description
        ((q.recorded (.rollback h (.ok description)) world).withOutcome identity
          (.rolledBack description)) after) :
      Attempt c o h identity p after

/-- Visiting one object of the first phase. -/
inductive DirectVisit (c : Collaborators σ) (o : Options) (p : Progress σ) :
    Fetched → Except Failure Unit × Progress σ → Prop where
  | unread {failure : Failure} : DirectVisit c o p (.error failure) (.error failure, p)
  | unclassified {h : Handle} {failure : Failure} (classified : classify h = .error failure) :
      DirectVisit c o p (.ok h) (.error failure, p)
  | duplicate {h : Handle} {target : Target} (classified : classify h = .ok target)
      (seen : p.seen.contains target.identity = true) :
      DirectVisit c o p (.ok h) (.error (.duplicateTarget target.identity), p)
  | unannounced {h : Handle} {ref : WorkloadRef} {failure : Failure} {q : Progress σ}
      (classified : classify h = .ok (.pointer ref)) (new : p.seen.contains ref.identity = false)
      (printed : Printed c h ref.notice { p with seen := ⟨ref.identity :: p.seen.identities⟩ }
        (.error failure, q)) :
      DirectVisit c o p (.ok h) (.error failure, q)
  | announced {h : Handle} {ref : WorkloadRef} {q : Progress σ}
      (classified : classify h = .ok (.pointer ref)) (new : p.seen.contains ref.identity = false)
      (printed : Printed c h ref.notice { p with seen := ⟨ref.identity :: p.seen.identities⟩ }
        (.ok (), q)) :
      DirectVisit c o p (.ok h)
        (.ok (), (q.withDiscovered ref).withOutcome ref.identity (.referenced ref.qualifiedName))
  | attempted {h : Handle} {identity : Identity} {after : Except Failure Unit × Progress σ}
      (classified : classify h = .ok (.workload identity)) (new : p.seen.contains identity = false)
      (attempt : Attempt c o h identity { p with seen := ⟨identity :: p.seen.identities⟩ } after) :
      DirectVisit c o p (.ok h) after

/-- Visiting one object of the second phase. -/
inductive IndirectVisit (c : Collaborators σ) (o : Options) (p : Progress σ) :
    Fetched → Except Failure Unit × Progress σ → Prop where
  | unread {failure : Failure} : IndirectVisit c o p (.error failure) (.error failure, p)
  | attempted {h : Handle} {after : Except Failure Unit × Progress σ}
      (attempt : Attempt c o h h.identity p after) : IndirectVisit c o p (.ok h) after

theorem print_printed (c : Collaborators σ) (h : Handle) (description : String) (p : Progress σ) :
    Printed c h description p (print c h description p) := by
  unfold print
  rcases answer : c.print h description p.world with ⟨_ | _, world⟩
  · exact .lost answer
  · exact .written answer

/-- The server is asked in a server dry run only, and a strategy is called only after a yes. -/
theorem verify_checked (c : Collaborators σ) (o : Options) (h : Handle) (p : Progress σ) :
    (∃ q, verify c o h p = (.ok (), q) ∧ Checked c o h p q) ∨
      ∃ cause world, o.dryRun = .server ∧ c.verify h.gvk p.world = (.error cause, world) ∧
        verify c o h p = (.error (.dryRunUnsupported h.gvk cause),
          p.recorded (.verify h.gvk false) world) := by
  unfold verify
  by_cases mode : o.dryRun = .server
  · simp only [mode, if_true]
    rcases answer : c.verify h.gvk p.world with ⟨cause | _, world⟩
    · exact .inr ⟨cause, world, trivial, rfl, rfl⟩
    · exact .inl ⟨_, rfl, .supported mode answer⟩
  · simp only [mode, if_false]
    exact .inl ⟨p, rfl, .unasked mode⟩

theorem rollBack_attempt (c : Collaborators σ) (o : Options) (h : Handle) (identity : Identity)
    (p : Progress σ) : Attempt c o h identity p (rollBack c o h identity p) := by
  unfold rollBack Registry.strategyFor
  cases found : c.strategies.find? h.gvk.group h.gvk.kind with
  | none => exact .unregistered found
  | some strategy =>
    obtain ⟨q, verified, checked⟩ | ⟨cause, world, mode, answer, verified⟩ := verify_checked c o h p
    · simp only [verified]
      rcases answer : strategy h o.revision o.dryRun q.world with ⟨cause | description, world⟩
      · exact .failed found checked answer
      · exact .done found checked answer (print_printed _ _ _ _)
    · simp only [verified]
      exact .unsupported found mode answer

theorem visitDirect_visit (c : Collaborators σ) (o : Options) (item : Fetched) (p : Progress σ) :
    DirectVisit c o p item (visitDirect c o item p) := by
  cases item with
  | error failure => exact .unread
  | ok h =>
    simp only [visitDirect]
    cases classified : classify h with
    | error failure => exact .unclassified classified
    | ok target =>
      cases target with
      | pointer ref =>
        cases new : p.seen.contains ref.identity with
        | true =>
          simp only [Seen.observe, new, if_true]
          exact .duplicate classified new
        | false =>
          simp only [Seen.observe, new, Bool.false_eq_true, if_false]
          have printed := print_printed c h ref.notice
            { p with seen := ⟨ref.identity :: p.seen.identities⟩ }
          simp only [WorkloadRef.notice] at printed
          split
          · rename_i failure q line
            exact .unannounced classified new (line ▸ printed)
          · rename_i q line
            exact .announced classified new (line ▸ printed)
      | workload identity =>
        cases new : p.seen.contains identity with
        | true =>
          simp only [Seen.observe, new, if_true]
          exact .duplicate classified new
        | false =>
          simp only [Seen.observe, new, Bool.false_eq_true, if_false]
          exact .attempted classified new (rollBack_attempt _ _ _ _ _)

theorem visitIndirect_visit (c : Collaborators σ) (o : Options) (item : Fetched) (p : Progress σ) :
    IndirectVisit c o p item (visitIndirect c o item p) := by
  cases item with
  | error failure => exact .unread
  | ok h => exact .attempted (rollBack_attempt _ _ _ _ _)

theorem stepDirect_cases (c : Collaborators σ) (o : Options) (p : Progress σ) (item : Fetched) :
    (∃ q, DirectVisit c o p item (.ok (), q) ∧ stepDirect c o p item = q) ∨
      ∃ failure q, DirectVisit c o p item (.error failure, q) ∧
        stepDirect c o p item = q.withDirectError failure := by
  have visit := visitDirect_visit c o item p
  unfold stepDirect
  rcases ends : visitDirect c o item p with ⟨failure | _, q⟩
  · exact .inr ⟨failure, q, ends ▸ visit, rfl⟩
  · exact .inl ⟨q, ends ▸ visit, rfl⟩

theorem stepIndirect_cases (c : Collaborators σ) (o : Options) (p : Progress σ) (item : Fetched) :
    (∃ q, IndirectVisit c o p item (.ok (), q) ∧ stepIndirect c o p item = q) ∨
      ∃ failure q, IndirectVisit c o p item (.error failure, q) ∧
        stepIndirect c o p item = q.withIndirectError failure := by
  have visit := visitIndirect_visit c o item p
  unfold stepIndirect
  rcases ends : visitIndirect c o item p with ⟨failure | _, q⟩
  · exact .inr ⟨failure, q, ends ▸ visit, rfl⟩
  · exact .inl ⟨q, ends ▸ visit, rfl⟩

/-- The progress after the objects of a request have been visited. -/
def afterDirect (c : Collaborators σ) (o : Options) (request : Request) (world : σ)
    (items : List Fetched) : Progress σ :=
  items.foldl (stepDirect c o) (resolve c request (.start world)).2

/-- What the source answers when it is asked for the workloads that were found. Without any it is not
asked, and there are no objects. -/
def followUpAnswer (c : Collaborators σ) (request : Request) (p : Progress σ) :
    Except Failure (List Fetched) :=
  if p.report.discovered.isEmpty then .ok []
  else (c.resolve (request.followUp p.report.discovered) p.world).1

/-- The progress at the end of a run whose request was answered. -/
def afterBoth (c : Collaborators σ) (o : Options) (request : Request) (p : Progress σ) : Progress σ :=
  if p.report.discovered.isEmpty then p else secondPhase c o request p

@[simp] theorem resolve_eq (c : Collaborators σ) (request : Request) (p : Progress σ) :
    resolve c request p = ((c.resolve request p.world).1,
      p.recorded (.resolve request) (c.resolve request p.world).2) := rfl

/-- A request without an answer is all that there is to a run. -/
theorem run_of_unanswered {request : Request} {world : σ} {failure : Failure}
    (answer : (c.resolve request world).1 = .error failure) :
    run c o request world =
      ⟨.error failure, [.resolve request], (c.resolve request world).2⟩ := by
  simp only [run, resolve_eq, Progress.start, answer]
  rfl

theorem run_of_answered {request : Request} {world : σ} {items : List Fetched}
    (answer : (c.resolve request world).1 = .ok items) :
    run c o request world =
      let p := afterBoth c o request (afterDirect c o request world items)
      ⟨.ok p.report, p.trace, p.world⟩ := by
  simp only [run, afterBoth, afterDirect, resolve_eq, Progress.start, answer]

/-- A run has a report just when its request was answered. -/
theorem answered_of_run {request : Request} {world : σ} {report : Report}
    (ended : (run c o request world).result = .ok report) :
    ∃ items, (c.resolve request world).1 = .ok items := by
  cases answer : (c.resolve request world).1 with
  | ok items => exact ⟨items, rfl⟩
  | error failure => simp [run_of_unanswered answer] at ended

end Engine

end Rollback
