import Rollback.Proofs.Engine.Visits

/-! A run of the engine as a path of calls of its collaborators: what one call keeps, the whole run
keeps. A strategy is called only with an object that was answered, and in a server dry run only right
after the server has confirmed the type. -/
namespace Rollback.Engine

variable {σ : Type}

/-- The objects that an answer offers. -/
def offers : Except Failure (List Fetched) → List Handle
  | .ok items => handles items
  | .error _ => []

/-- The calls that lead on from a world, given the events and the objects offered before it: all events
and objects up to a later world. -/
inductive Calls (c : Collaborators σ) (o : Options) (past : List Event) (given : List Handle)
    (world : σ) : List Event → List Handle → σ → Prop where
  | start : Calls c o past given world past given world
  | resolve {trace : List Event} {offered : List Handle} {w : σ}
      (before : Calls c o past given world trace offered w) (request : Request) :
      Calls c o past given world (trace ++ [.resolve request]) (offered ++ offers (c.resolve request w).1)
        (c.resolve request w).2
  | verify {trace : List Event} {offered : List Handle} {w w' : σ} {gvk : Gvk}
      {answer : Except Cause Unit} (before : Calls c o past given world trace offered w)
      (mode : o.dryRun = .server) (answered : c.verify gvk w = (answer, w')) :
      Calls c o past given world (trace ++ [.verify gvk answer.isOk]) offered w'
  | rollback {trace : List Event} {offered : List Handle} {w w' : σ} {h : Handle}
      {strategy : Strategy σ} {answer : Except Cause String}
      (before : Calls c o past given world trace offered w) (member : h ∈ offered)
      (found : c.strategies.find? h.gvk.group h.gvk.kind = some strategy)
      (checked : o.dryRun = .server → trace.getLast? = some (.verify h.gvk true))
      (answered : strategy h o.revision o.dryRun w = (answer, w')) :
      Calls c o past given world (trace ++ [.rollback h answer]) offered w'
  | print {trace : List Event} {offered : List Handle} {w w' : σ} {h : Handle} {description : String}
      {answer : Except Cause Unit} (before : Calls c o past given world trace offered w)
      (answered : c.print h description w = (answer, w')) :
      Calls c o past given world (trace ++ [.print h description answer.isOk]) offered w'

variable {c : Collaborators σ} {o : Options} {past : List Event} {given : List Handle} {world : σ}
  {h : Handle} {p q : Progress σ} {offered : List Handle} {description : String} {identity : Identity}
  {item : Fetched}
  {after : Except Failure Unit × Progress σ}

/-- The calls that have been made in a run so far. -/
abbrev Reached (c : Collaborators σ) (o : Options) (past : List Event) (given : List Handle)
    (world : σ) (offered : List Handle) (p : Progress σ) : Prop :=
  Calls c o past given world p.trace offered p.world

/-- Only objects that were offered are handed to strategies. -/
theorem Calls.attempts_subset {w : σ} {trace : List Event}
    (calls : Calls c o past given world trace offered w) (before : attempts past ⊆ given) :
    attempts trace ⊆ offered := by
  induction calls with
  | start => exact before
  | resolve _ request ih =>
    rw [attempts_append]
    exact List.append_subset.mpr ⟨List.Subset.trans ih (List.subset_append_left _ _), List.nil_subset _⟩
  | verify _ mode answered ih =>
    rw [attempts_append]
    exact List.append_subset.mpr ⟨ih, List.nil_subset _⟩
  | @rollback _ _ _ _ h _ _ _ member _ _ _ ih =>
    rw [attempts_append]
    exact List.append_subset.mpr ⟨ih, List.cons_subset.mpr ⟨member, List.nil_subset _⟩⟩
  | print _ answered ih =>
    rw [attempts_append]
    exact List.append_subset.mpr ⟨ih, List.nil_subset _⟩

/-- A property of the events and the world so far that no call for one of the given objects ends. -/
structure Closed (c : Collaborators σ) (o : Options) (given : List Handle)
    (kept : List Event → σ → Prop) : Prop where
  verify {trace : List Event} {w w' : σ} {gvk : Gvk} {answer : Except Cause Unit}
    (before : kept trace w) (mode : o.dryRun = .server) (answered : c.verify gvk w = (answer, w')) :
    kept (trace ++ [.verify gvk answer.isOk]) w'
  rollback {trace : List Event} {w w' : σ} {h : Handle} {strategy : Strategy σ}
    {answer : Except Cause String} (before : kept trace w) (member : h ∈ given)
    (found : c.strategies.find? h.gvk.group h.gvk.kind = some strategy)
    (checked : o.dryRun = .server → trace.getLast? = some (.verify h.gvk true))
    (answered : strategy h o.revision o.dryRun w = (answer, w')) :
    kept (trace ++ [.rollback h answer]) w'
  print {trace : List Event} {w w' : σ} {h : Handle} {description : String}
    {answer : Except Cause Unit} (before : kept trace w)
    (answered : c.print h description w = (answer, w')) :
    kept (trace ++ [.print h description answer.isOk]) w'

section Closed

variable {kept : List Event → σ → Prop}

theorem Checked.keeps (checked : Checked c o h p q) (closed : Closed c o given kept)
    (before : kept p.trace p.world) :
    kept q.trace q.world ∧ (o.dryRun = .server → q.trace.getLast? = some (.verify h.gvk true)) := by
  cases checked with
  | unasked mode => exact ⟨before, fun server => absurd server mode⟩
  | supported mode answer =>
    exact ⟨closed.verify before mode answer, fun _ => List.getLast?_concat⟩

theorem Printed.keeps (printed : Printed c h description p after) (closed : Closed c o given kept)
    (before : kept p.trace p.world) : kept after.2.trace after.2.world := by
  cases printed with
  | written answer => exact closed.print before answer
  | lost answer => exact closed.print before answer

theorem Attempt.keeps (attempt : Attempt c o h identity p after) (closed : Closed c o given kept)
    (before : kept p.trace p.world) (member : h ∈ given) : kept after.2.trace after.2.world := by
  cases attempt with
  | unregistered none => exact before
  | unsupported found mode answer => exact closed.verify before mode answer
  | failed found checked answer =>
    obtain ⟨before, last⟩ := checked.keeps closed before
    exact closed.rollback before member found last answer
  | done found checked answer printed =>
    obtain ⟨before, last⟩ := checked.keeps closed before
    exact printed.keeps closed (closed.rollback before member found last answer)

theorem DirectVisit.keeps (visit : DirectVisit c o p item after) (closed : Closed c o given kept)
    (before : kept p.trace p.world) (members : handles [item] ⊆ given) :
    kept after.2.trace after.2.world := by
  cases visit with
  | unread | unclassified | duplicate => exact before
  | unannounced classified new printed => exact printed.keeps closed before
  | announced classified new printed => exact printed.keeps closed before
  | attempted classified new attempt =>
    exact attempt.keeps closed before (members (List.mem_singleton_self _))

theorem IndirectVisit.keeps (visit : IndirectVisit c o p item after) (closed : Closed c o given kept)
    (before : kept p.trace p.world) (members : handles [item] ⊆ given) :
    kept after.2.trace after.2.world := by
  cases visit with
  | unread => exact before
  | attempted attempt => exact attempt.keeps closed before (members (List.mem_singleton_self _))

theorem Closed.foldl_stepDirect (closed : Closed c o given kept) {items : List Fetched}
    (before : kept p.trace p.world) (members : handles items ⊆ given) :
    kept (items.foldl (stepDirect c o) p).trace (items.foldl (stepDirect c o) p).world := by
  induction items generalizing p with
  | nil => exact before
  | cons item rest ih =>
    rw [handles_cons, List.append_subset] at members
    refine ih ?_ members.2
    obtain ⟨q, visit, step⟩ | ⟨failure, q, visit, step⟩ := stepDirect_cases c o p item <;>
    · rw [step]
      exact visit.keeps closed before members.1

theorem Closed.foldl_stepIndirect (closed : Closed c o given kept) {items : List Fetched}
    (before : kept p.trace p.world) (members : handles items ⊆ given) :
    kept (items.foldl (stepIndirect c o) p).trace (items.foldl (stepIndirect c o) p).world := by
  induction items generalizing p with
  | nil => exact before
  | cons item rest ih =>
    rw [handles_cons, List.append_subset] at members
    refine ih ?_ members.2
    obtain ⟨q, visit, step⟩ | ⟨failure, q, visit, step⟩ := stepIndirect_cases c o p item <;>
    · rw [step]
      exact visit.keeps closed before members.1

theorem Closed.afterDirect {request : Request} {items : List Fetched}
    (closed : Closed c o (handles items) kept)
    (before : kept [.resolve request] (c.resolve request world).2) :
    kept (afterDirect c o request world items).trace (afterDirect c o request world items).world :=
  closed.foldl_stepDirect before (List.Subset.refl _)

/-- A property is kept by the second phase if it is kept by the request for its objects and by the calls
for them. -/
theorem Closed.secondPhase (kept : List Event → σ → Prop) {request : Request}
    (again : kept (p.trace ++ [.resolve (request.followUp p.report.discovered)])
      (c.resolve (request.followUp p.report.discovered) p.world).2)
    (closed : ∀ items, (c.resolve (request.followUp p.report.discovered) p.world).1 = .ok items →
      Closed c o (handles items) kept) :
    kept (secondPhase c o request p).trace (secondPhase c o request p).world := by
  simp only [Engine.secondPhase, resolve_eq]
  cases answer : (c.resolve (request.followUp p.report.discovered) p.world).1 with
  | error failure => exact again
  | ok items => exact (closed items answer).foldl_stepIndirect again (List.Subset.refl _)

end Closed

theorem Calls.closed {members : List Handle} (offer : members ⊆ offered) :
    Closed c o members fun trace w => Calls c o past given world trace offered w where
  verify before mode answered := before.verify mode answered
  rollback before member found checked answered :=
    before.rollback (offer member) found checked answered
  print before answered := before.print answered

theorem reached_afterDirect {request : Request} {items : List Fetched}
    (answer : (c.resolve request world).1 = .ok items) :
    Reached c o [] [] world (handles items) (afterDirect c o request world items) := by
  refine (Calls.closed (List.Subset.refl _)).afterDirect ?_
  have resolved := (Calls.start : Calls c o [] [] world [] [] world).resolve request
  rw [answer] at resolved
  exact resolved

theorem reached_afterBoth (request : Request) (before : Reached c o past given world offered p) :
    Reached c o past given world (offered ++ offers (followUpAnswer c request p))
      (afterBoth c o request p) := by
  unfold afterBoth followUpAnswer
  split
  · rw [offers, handles, List.filterMap_nil, List.append_nil]
    exact before
  · have resolved := before.resolve (request.followUp p.report.discovered)
    simp only [secondPhase, resolve_eq]
    cases answer : (c.resolve (request.followUp p.report.discovered) p.world).1 with
    | error failure =>
      rw [answer] at resolved
      exact resolved
    | ok items =>
      rw [answer] at resolved
      exact (Calls.closed (List.subset_append_right _ _)).foldl_stepIndirect resolved
        (List.Subset.refl _)

/-- The calls of the second phase after its objects were offered. -/
theorem calls_of_followUp {request : Request} {items : List Fetched}
    (found : p.report.discovered.isEmpty = false)
    (answer : followUpAnswer c request p = .ok items) :
    ∃ past w, c.resolve (request.followUp p.report.discovered) p.world = (.ok items, w) ∧
      Calls c o past (handles items) w (afterBoth c o request p).trace (handles items)
        (afterBoth c o request p).world := by
  simp only [followUpAnswer, found, Bool.false_eq_true, if_false] at answer
  refine ⟨p.trace ++ [.resolve (request.followUp p.report.discovered)],
    (c.resolve (request.followUp p.report.discovered) p.world).2, Prod.ext answer rfl, ?_⟩
  simp only [afterBoth, found, Bool.false_eq_true, if_false, secondPhase, resolve_eq, answer]
  exact (Calls.closed (List.Subset.refl _)).foldl_stepIndirect .start (List.Subset.refl _)

/-- Every run is a path of calls. -/
theorem run_calls (c : Collaborators σ) (o : Options) (request : Request) (world : σ) :
    ∃ offered, Calls c o [] [] world (run c o request world).trace offered
      (run c o request world).world := by
  cases answer : (c.resolve request world).1 with
  | error failure =>
    have resolved := (Calls.start : Calls c o [] [] world [] [] world).resolve request
    rw [run_of_unanswered answer]
    exact ⟨_, resolved⟩
  | ok items =>
    rw [run_of_answered answer]
    exact ⟨_, reached_afterBoth request (reached_afterDirect answer)⟩

end Rollback.Engine
