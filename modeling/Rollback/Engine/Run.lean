import Rollback.Engine.Classify
import Rollback.Engine.Report

/-! One run of the engine, in two phases. The first visits what the user named: a workload is rolled
back at once, a pointer reserves the identity of its workload and queues it. The second resolves the
queued workloads and rolls them back. One set of identities spans both phases. -/
namespace Rollback

abbrev Fetched := Except Failure Handle

/-- How one kind of workload is rolled back: the words for what was done, or why it failed. -/
abbrev Strategy (σ : Type) := Handle → RevisionSelector → DryRun → StateM σ (Except Cause String)

/-- What the engine works with. Each collaborator may change the state `σ` of the world. -/
structure Collaborators (σ : Type) where
  /-- Turns a request into objects; fails if the request as a whole has no answer. -/
  resolve : Request → StateM σ (Except Failure (List Fetched))
  /-- Confirms that the server can try a change of the type. -/
  verify : Gvk → StateM σ (Except Cause Unit)
  /-- How the kinds of workload are rolled back. -/
  strategies : Registry (Strategy σ)
  /-- Writes one outcome. -/
  print : Handle → String → StateM σ (Except Cause Unit)

structure Options where
  revision : RevisionSelector
  dryRun : DryRun
  deriving DecidableEq, Repr, Inhabited

structure Progress (σ : Type) where
  seen : Seen
  report : Report
  /-- What was asked of the collaborators, in order. -/
  trace : List Event
  world : σ

namespace Progress

variable {σ : Type}

@[simp] def start (world : σ) : Progress σ := ⟨.empty, .empty, [], world⟩

@[simp] def recorded (p : Progress σ) (event : Event) (world : σ) : Progress σ :=
  { p with trace := p.trace ++ [event], world := world }

@[simp] def withOutcome (p : Progress σ) (identity : Identity) (deed : Deed) : Progress σ :=
  { p with report := { p.report with outcomes := p.report.outcomes ++ [⟨identity, deed⟩] } }

@[simp] def withDiscovered (p : Progress σ) (ref : WorkloadRef) : Progress σ :=
  { p with report := { p.report with discovered := p.report.discovered ++ [ref] } }

@[simp] def withDirectError (p : Progress σ) (f : Failure) : Progress σ :=
  { p with report := { p.report with directErrors := p.report.directErrors ++ [f] } }

@[simp] def withIndirectError (p : Progress σ) (f : Failure) : Progress σ :=
  { p with report := { p.report with indirectErrors := p.report.indirectErrors ++ [f] } }

end Progress

namespace Engine

variable {σ : Type}

def print (c : Collaborators σ) (h : Handle) (description : String) (p : Progress σ) :
    Except Failure Unit × Progress σ :=
  let (answer, world) := c.print h description p.world
  match answer with
  | .ok () => (.ok (), p.recorded (.print h description true) world)
  | .error cause => (.error (.print h.displayName cause), p.recorded (.print h description false) world)

/-- Asks whether the server can try the change; only a server dry run needs that. -/
def verify (c : Collaborators σ) (o : Options) (h : Handle) (p : Progress σ) :
    Except Failure Unit × Progress σ :=
  if o.dryRun = .server then
    let (answer, world) := c.verify h.gvk p.world
    match answer with
    | .ok () => (.ok (), p.recorded (.verify h.gvk true) world)
    | .error cause =>
      (.error (.dryRunUnsupported h.gvk cause), p.recorded (.verify h.gvk false) world)
  else (.ok (), p)

/-- Rolls an object back. The outcome is recorded before its line is written, so that a line that
cannot be written never hides a rollback. -/
def rollBack (c : Collaborators σ) (o : Options) (h : Handle) (identity : Identity)
    (p : Progress σ) : Except Failure Unit × Progress σ :=
  match c.strategies.strategyFor h.gvk.group h.gvk.kind with
  | .error failure => (.error failure, p)
  | .ok strategy =>
    match verify c o h p with
    | (.error failure, p) => (.error failure, p)
    | (.ok (), p) =>
      let (answer, world) := strategy h o.revision o.dryRun p.world
      let p := p.recorded (.rollback h answer) world
      match answer with
      | .error cause => (.error (.strategy identity cause), p)
      | .ok description => print c h description (p.withOutcome identity (.rolledBack description))

/-- Visits one object of the first phase. A pointer whose line cannot be written queues nothing. -/
def visitDirect (c : Collaborators σ) (o : Options) (item : Fetched) (p : Progress σ) :
    Except Failure Unit × Progress σ :=
  match item with
  | .error failure => (.error failure, p)
  | .ok h =>
    match classify h with
    | .error failure => (.error failure, p)
    | .ok (.pointer ref) =>
      match p.seen.observe ref.identity with
      | (false, _) => (.error (.duplicateTarget ref.identity), p)
      | (true, seen) =>
        match print c h ("references to " ++ ref.qualifiedName) { p with seen := seen } with
        | (.error failure, p) => (.error failure, p)
        | (.ok (), p) =>
          (.ok (), (p.withDiscovered ref).withOutcome ref.identity (.referenced ref.qualifiedName))
    | .ok (.workload identity) =>
      match p.seen.observe identity with
      | (false, _) => (.error (.duplicateTarget identity), p)
      | (true, seen) => rollBack c o h identity { p with seen := seen }

/-- Visits one object of the second phase, whose identity was reserved in the first. -/
def visitIndirect (c : Collaborators σ) (o : Options) (item : Fetched) (p : Progress σ) :
    Except Failure Unit × Progress σ :=
  match item with
  | .error failure => (.error failure, p)
  | .ok h => rollBack c o h h.identity p

def stepDirect (c : Collaborators σ) (o : Options) (p : Progress σ) (item : Fetched) : Progress σ :=
  match visitDirect c o item p with
  | (.ok (), p) => p
  | (.error failure, p) => p.withDirectError failure

def stepIndirect (c : Collaborators σ) (o : Options) (p : Progress σ) (item : Fetched) :
    Progress σ :=
  match visitIndirect c o item p with
  | (.ok (), p) => p
  | (.error failure, p) => p.withIndirectError failure

def resolve (c : Collaborators σ) (request : Request) (p : Progress σ) :
    Except Failure (List Fetched) × Progress σ :=
  let (answer, world) := c.resolve request p.world
  (answer, p.recorded (.resolve request) world)

def secondPhase (c : Collaborators σ) (o : Options) (request : Request) (p : Progress σ) :
    Progress σ :=
  match resolve c (request.followUp p.report.discovered) p with
  | (.error failure, p) => p.withIndirectError failure
  | (.ok items, p) => items.foldl (stepIndirect c o) p

structure Ended (σ : Type) where
  result : Except Failure Report
  trace : List Event
  world : σ

/-- Runs both phases. Only a request without an answer fails the run as a whole; there is no second
phase when no workload was found. -/
def run (c : Collaborators σ) (o : Options) (request : Request) (world : σ) : Ended σ :=
  match resolve c request (.start world) with
  | (.error failure, p) => ⟨.error failure, p.trace, p.world⟩
  | (.ok items, p) =>
    let p := items.foldl (stepDirect c o) p
    let p := if p.report.discovered.isEmpty then p else secondPhase c o request p
    ⟨.ok p.report, p.trace, p.world⟩

end Engine

end Rollback
