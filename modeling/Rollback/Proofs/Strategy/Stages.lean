import Rollback.Proofs.Server.Sends
import Rollback.Proofs.Traversal
import Rollback.Strategy.Cluster

/-! A rollback in two stages: everything is read and it is decided what is to be done, without regard
to the dry run; then the decision is shown or carried out, with at most one change. -/
namespace Rollback

open Api

variable {σ : Type}

/-- What is to be done for a workload once everything has been read. -/
inductive Decision where
  /-- Nothing: the template is that of the revision already. -/
  | skip (number : Int)
  /-- The template is to be restored by sending the body to the path. -/
  | restore (template : Json) (kind : PatchKind) (path : String) (body : Json)

namespace Decision

def carryOut {α : Type} (server : Server σ) (what : String) (read? : Json → Option α)
    (dryRun : DryRun) : Decision → Act σ String
  | skip number => pure (Template.skipped number)
  | restore template kind path body =>
    if dryRun = .client then pure (Yaml.render template)
    else do
      let _ ← server.fetch what (HttpRequest.patchAt path (dryRun == .server) kind body) read?
      pure Template.rolledBack

/-- The request that carries a decision out, if it takes one and that can be built. -/
def change? (dryRun : DryRun) : Decision → Option HttpRequest
  | skip _ => none
  | restore _ kind path body =>
    if dryRun = .client then none else HttpRequest.patchAt path (dryRun == .server) kind body

variable {α : Type} (server : Server σ) (what : String) (read? : Json → Option α) (dryRun : DryRun)

/-- A decision is carried out by its change, and by nothing else. -/
theorem carryOut_requests (decision : Decision) (s : Session σ) :
    ((decision.carryOut server what read? dryRun).run s).2.requests =
      s.requests ++ (decision.change? dryRun).toList := by
  cases decision with
  | skip number => exact (List.append_nil _).symm
  | restore template kind path body =>
    simp only [carryOut, change?]
    split
    · exact (List.append_nil _).symm
    · have sent := server.fetch_requests what
        (HttpRequest.patchAt path (dryRun == .server) kind body) read? s
      rw [run_bind_apply]
      rcases fetched : (server.fetch what _ read?).run s with ⟨cause | v, t⟩ <;>
      · rw [fetched] at sent
        exact sent

theorem sends_carryOut (decision : Decision) :
    Sends (fun r => decision.change? dryRun = some r)
      (decision.carryOut server what read? dryRun).run := by
  cases decision with
  | skip number => exact Sends.run_pure _
  | restore template kind path body =>
    simp only [carryOut, change?]
    split
    · exact Sends.run_pure _
    · exact Sends.run_bind (server.sends_fetch _ _ fun _ => id) fun _ => Sends.run_pure _

end Decision

namespace DeploymentRollback

def Ready.path (d : Ready) : String := appsPath "deployments" d.ns ++ "/" ++ d.name

/-- Reads the replica sets of a deployment and decides what is to be done. -/
def decide (server : Server σ) (h : Handle) (selector : RevisionSelector) : Act σ Decision := do
  let d ← ready h
  let labels ← d.spec.selector.render.mapError fun fault => Cause.plain fault.message
  let items ← server.fetch "list replicasets"
    (HttpRequest.listAt (appsPath "replicasets" d.ns) (some labels)) (readList ReplicaSet.ofJson?)
  let (number, rs, wanted) ← choose d items selector
  if Template.agree d.spec.template wanted then return .skip number
  return .restore wanted .strategic d.path
    (patch wanted (Annotations.rolledBack d.annotations rs.metadata.annotations))

theorem act_eq (server : Server σ) (h : Handle) (selector : RevisionSelector) (dryRun : DryRun) :
    act server h selector dryRun = decide server h selector >>=
      Decision.carryOut server "patch deployment" Deployment.ofJson? dryRun := by
  unfold act decide
  simp only [bind_assoc]
  refine bind_congr fun d => bind_congr fun labels => bind_congr fun items => bind_congr ?_
  rintro ⟨number, rs, wanted⟩
  dsimp only
  split
  · rfl
  · rfl

theorem sends_decide {kind : HttpRequest → Prop} {h : Handle}
    (lists : ∀ d labels r, ready h = .ok d →
      HttpRequest.listAt (appsPath "replicasets" d.ns) (some labels) = some r → kind r)
    (server : Server σ) (selector : RevisionSelector) : Sends kind (decide server h selector).run := by
  refine Sends.run_bind_liftExcept fun d found => ?_
  refine Sends.run_bind (Sends.run_liftExcept _) fun labels => ?_
  refine Sends.run_bind (server.sends_fetch _ _ fun r => lists d labels r found) fun items => ?_
  refine Sends.run_bind (Sends.run_liftExcept _) fun chosen => ?_
  dsimp only
  split <;> exact Sends.run_pure _

/-- What a deployment's decision to restore a template comes from. -/
theorem decide_restore {server : Server σ} {h : Handle} {selector : RevisionSelector}
    {s t : Session σ} {template body : Json} {kind : PatchKind} {path : String}
    (decided : (decide server h selector).run s = (.ok (.restore template kind path body), t)) :
    ∃ d items number rs, ready h = .ok d ∧ choose d items selector = .ok (number, rs, template) ∧
      (∃ text document, Json.ofText? text = some document ∧
        readList ReplicaSet.ofJson? document = some items) ∧
      kind = .strategic ∧ path = d.path ∧
      body = patch template (Annotations.rolledBack d.annotations rs.metadata.annotations) := by
  obtain ⟨d, found, decided⟩ := ok_of_run_bind_liftExcept decided
  obtain ⟨labels, _, decided⟩ := ok_of_run_bind_liftExcept decided
  obtain ⟨items, _, listed, decided⟩ := ok_of_run_bind decided
  obtain ⟨⟨number, rs, wanted⟩, chosen, decided⟩ := ok_of_run_bind_liftExcept decided
  by_cases same : Template.agree d.spec.template wanted = true
  · simp only [if_pos same] at decided
    cases decided
  · simp only [if_neg same] at decided
    cases decided
    exact ⟨d, items, number, rs, found, chosen, server.document_of_fetch listed, rfl, rfl, rfl⟩

end DeploymentRollback

namespace RevisionRollback

/-- The live template of a workload; one that has none counts as null. -/
def liveTemplate (h : Handle) : Json := (h.object.at? ["spec", "template"]).getD .null

/-- Reads the controller revisions of a workload and decides what is to be done. -/
def decide (server : Server σ) (kind : PatchKind) (h : Handle) (selector : RevisionSelector) :
    Act σ Decision := do
  let place ← coordinates h.object
  let labelSelector ← selectorOf h.gvk.kind place.name h.object
  let labels ← labelSelector.render.mapError fun fault => Cause.plain fault.message
  let items ← server.fetch "list controllerrevisions"
    (HttpRequest.listAt (resourcePath "apps" "apps/v1" "controllerrevisions" (some place.ns))
      (some labels)) (readList ControllerRevision.ofJson?)
  let chosen ← choose items place.uid selector
  if Template.agree (liveTemplate h) chosen.template then return .skip chosen.number
  return .restore chosen.template kind (workloadPath h.gvk place.ns place.name)
    (patch kind (liveTemplate h) chosen)

theorem act_eq (server : Server σ) (kind : PatchKind) (h : Handle) (selector : RevisionSelector)
    (dryRun : DryRun) :
    act server kind h selector dryRun = decide server kind h selector >>=
      Decision.carryOut server "patch workload" LiveObject.ofJson? dryRun := by
  unfold act decide
  simp only [bind_assoc]
  refine bind_congr fun place => bind_congr fun labelSelector => bind_congr fun labels =>
    bind_congr fun items => bind_congr fun chosen => ?_
  unfold liveTemplate
  split
  · rfl
  · rfl

theorem sends_decide {kind : HttpRequest → Prop} {h : Handle}
    (lists : ∀ place labels r, coordinates h.object = .ok place →
      HttpRequest.listAt (resourcePath "apps" "apps/v1" "controllerrevisions" (some place.ns))
        (some labels) = some r → kind r)
    (server : Server σ) (patchKind : PatchKind) (selector : RevisionSelector) :
    Sends kind (decide server patchKind h selector).run := by
  refine Sends.run_bind_liftExcept fun place found => ?_
  refine Sends.run_bind (Sends.run_liftExcept _) fun labelSelector => ?_
  refine Sends.run_bind (Sends.run_liftExcept _) fun labels => ?_
  refine Sends.run_bind (server.sends_fetch _ _ fun r => lists place labels r found) fun items => ?_
  refine Sends.run_bind (Sends.run_liftExcept _) fun chosen => ?_
  split <;> exact Sends.run_pure _

/-- What the decision to restore a template of a controller revision comes from. -/
theorem decide_restore {server : Server σ} {kind kind' : PatchKind} {h : Handle}
    {selector : RevisionSelector} {s t : Session σ} {template body : Json} {path : String}
    (decided : (decide server kind h selector).run s = (.ok (.restore template kind' path body), t)) :
    ∃ place items chosen, coordinates h.object = .ok place ∧
      choose items place.uid selector = .ok chosen ∧
      (∃ text document, Json.ofText? text = some document ∧
        readList ControllerRevision.ofJson? document = some items) ∧
      template = chosen.template ∧ kind' = kind ∧ path = workloadPath h.gvk place.ns place.name ∧
      body = patch kind (liveTemplate h) chosen := by
  obtain ⟨place, found, decided⟩ := ok_of_run_bind_liftExcept decided
  obtain ⟨labelSelector, _, decided⟩ := ok_of_run_bind_liftExcept decided
  obtain ⟨labels, _, decided⟩ := ok_of_run_bind_liftExcept decided
  obtain ⟨items, _, listed, decided⟩ := ok_of_run_bind decided
  obtain ⟨chosen, selected, decided⟩ := ok_of_run_bind_liftExcept decided
  by_cases same : Template.agree (liveTemplate h) chosen.template = true
  · simp only [if_pos same] at decided
    cases decided
  · simp only [if_neg same] at decided
    cases decided
    exact ⟨place, items, chosen, found, selected, server.document_of_fetch listed, rfl, rfl, rfl, rfl⟩

end RevisionRollback

/-- How a kind of workload is rolled back: by the replica sets of a deployment, or by controller
revisions. -/
inductive Procedure where
  | replicaSets
  | revisions (kind : PatchKind)
  deriving DecidableEq

namespace Procedure

variable (p : Procedure) (server : Server σ) (h : Handle) (selector : RevisionSelector)
  (dryRun : DryRun)

def kinds : Procedure → List (String × String)
  | replicaSets => [("apps", "Deployment")]
  | revisions .strategic => [("apps", "DaemonSet"), ("apps", "StatefulSet")]
  | revisions .merge => [("apps.kruise.io", "CloneSet"), ("apps.kruise.io", "StatefulSet"),
      ("apps.kruise.io", "DaemonSet")]

def strategy : Procedure → Strategy (Session σ)
  | replicaSets => DeploymentRollback.strategy server
  | revisions kind => RevisionRollback.strategy server kind

/-- The path to which a change of the object goes; none if its coordinates cannot be told. -/
def path? : Procedure → Handle → Option String
  | replicaSets, h => (DeploymentRollback.ready h).toOption.map DeploymentRollback.Ready.path
  | revisions _, h => (RevisionRollback.coordinates h.object).toOption.map fun place =>
      RevisionRollback.workloadPath h.gvk place.ns place.name

/-- The path under which the history of the object is listed; none if its coordinates cannot be
told. -/
def historyPath? : Procedure → Handle → Option String
  | replicaSets, h => (DeploymentRollback.ready h).toOption.map fun d =>
      DeploymentRollback.appsPath "replicasets" d.ns
  | revisions _, h => (RevisionRollback.coordinates h.object).toOption.map fun place =>
      resourcePath "apps" "apps/v1" "controllerrevisions" (some place.ns)

def decide : Procedure → Act σ Decision
  | replicaSets => DeploymentRollback.decide server h selector
  | revisions kind => RevisionRollback.decide server kind h selector

def carryOut : Procedure → Decision → Act σ String
  | replicaSets => Decision.carryOut server "patch deployment" Deployment.ofJson? dryRun
  | revisions _ => Decision.carryOut server "patch workload" LiveObject.ofJson? dryRun

theorem strategy_eq :
    p.strategy server h selector dryRun =
      (p.decide server h selector >>= p.carryOut server dryRun).run := by
  cases p with
  | replicaSets => exact DeploymentRollback.act_eq server h selector dryRun
  | revisions kind => exact RevisionRollback.act_eq server kind h selector dryRun

variable {h} in
/-- All that is read for a decision is the history of the object. -/
theorem sends_decide {kind : HttpRequest → Prop}
    (lists : ∀ path labels r, p.historyPath? h = some path →
      HttpRequest.listAt path (some labels) = some r → kind r) :
    Sends kind (p.decide server h selector).run := by
  cases p with
  | replicaSets =>
    refine DeploymentRollback.sends_decide (fun d labels r found => lists _ labels r ?_) server selector
    simp [historyPath?, found]
  | revisions patchKind =>
    refine RevisionRollback.sends_decide (fun place labels r found => lists _ labels r ?_) server
      patchKind selector
    simp [historyPath?, found]

theorem onlyReads_decide : OnlyReads (p.decide server h selector).run :=
  p.sends_decide server selector fun _ _ _ _ => HttpRequest.reads_of_listAt

theorem carryOut_requests (decision : Decision) (s : Session σ) :
    ((p.carryOut server dryRun decision).run s).2.requests =
      s.requests ++ (decision.change? dryRun).toList := by
  cases p <;> exact decision.carryOut_requests ..

theorem sends_carryOut (decision : Decision) :
    Sends (fun r => decision.change? dryRun = some r) (p.carryOut server dryRun decision).run := by
  cases p <;> exact decision.sends_carryOut _ _ _ _

variable {p server h selector}

theorem path?_of_decide {s t : Session σ} {template body : Json} {kind : PatchKind} {path : String}
    (decided : (p.decide server h selector).run s = (.ok (.restore template kind path body), t)) :
    p.path? h = some path := by
  cases p with
  | replicaSets =>
    obtain ⟨d, _, _, _, found, _, _, _, rfl, _⟩ := DeploymentRollback.decide_restore decided
    simp [path?, found]
  | revisions kind =>
    obtain ⟨place, _, _, found, _, _, _, _, rfl, _⟩ := RevisionRollback.decide_restore decided
    simp [path?, found]

/-- A rollback reads, and then sends at most one change, to the path of its object. -/
theorem strategy_requests (p : Procedure) (server : Server σ) (h : Handle)
    (selector : RevisionSelector) (dryRun : DryRun) (s : Session σ) :
    ∃ reads, (∀ r ∈ reads, r.Reads) ∧
      ((p.strategy server h selector dryRun s).2.requests = s.requests ++ reads ∨
        ∃ path kind body change, p.path? h = some path ∧ dryRun ≠ .client ∧
          HttpRequest.patchAt path (dryRun == .server) kind body = some change ∧
            (p.strategy server h selector dryRun s).2.requests = s.requests ++ (reads ++ [change])) := by
  obtain ⟨reads, requests, onlyReads⟩ := (p.onlyReads_decide server h selector s).sent
  refine ⟨reads, onlyReads, ?_⟩
  have run := congrFun (p.strategy_eq server h selector dryRun) s
  rw [run_bind_apply] at run
  rcases decided : (p.decide server h selector).run s with ⟨cause | decision, t⟩
  · rw [decided] at run requests
    exact .inl (run ▸ requests)
  · rw [decided] at run requests
    dsimp only at run
    have sent := p.carryOut_requests server dryRun decision t
    rw [requests, ← run, List.append_assoc] at sent
    cases changed : decision.change? dryRun with
    | none => exact .inl (by simpa [changed] using sent)
    | some change =>
      cases decision with
      | skip number => cases changed
      | restore template kind path body =>
        have mode : dryRun ≠ .client := by
          rintro rfl
          cases changed
        simp only [changed, Option.toList_some] at sent
        rw [Decision.change?, if_neg mode] at changed
        exact .inr ⟨path, kind, body, change, path?_of_decide decided, mode, changed, sent⟩

/-- The requests of a rollback are a list of the history and a change at the path of the object. -/
theorem sends_strategy {kind : HttpRequest → Prop} (p : Procedure) (server : Server σ) {h : Handle}
    (lists : ∀ path labels r, p.historyPath? h = some path →
      HttpRequest.listAt path (some labels) = some r → kind r)
    (changes : ∀ path tryOnly patchKind body r, p.path? h = some path →
      HttpRequest.patchAt path tryOnly patchKind body = some r → kind r)
    (selector : RevisionSelector) (dryRun : DryRun) :
    Sends kind (p.strategy server h selector dryRun) := by
  rw [strategy_eq]
  refine Sends.run_bind_of_answer (p.sends_decide server selector lists) fun decision s decided => ?_
  refine (p.sends_carryOut server dryRun decision).weaken fun r change => ?_
  cases decision with
  | skip number => cases change
  | restore template patchKind path body =>
    by_cases shown : dryRun = .client
    · rw [Decision.change?, if_pos shown] at change
      cases change
    · rw [Decision.change?, if_neg shown] at change
      exact changes path _ patchKind body r (path?_of_decide (Prod.ext decided rfl)) change

end Procedure

/-- Every registered strategy is one of the two. -/
theorem Server.procedure_of_find? {server : Server σ} {group kind : String}
    {strategy : Strategy (Session σ)} (found : server.strategies.find? group kind = some strategy) :
    ∃ p : Procedure, (group, kind) ∈ p.kinds ∧ strategy = p.strategy server := by
  simp only [Server.strategies, Registry.find?_register] at found
  split at found
  · next same => exact ⟨.revisions .merge, same ▸ by decide, (Option.some.inj found).symm⟩
  split at found
  · next same => exact ⟨.revisions .merge, same ▸ by decide, (Option.some.inj found).symm⟩
  split at found
  · next same => exact ⟨.revisions .merge, same ▸ by decide, (Option.some.inj found).symm⟩
  split at found
  · next same => exact ⟨.revisions .strategic, same ▸ by decide, (Option.some.inj found).symm⟩
  split at found
  · next same => exact ⟨.revisions .strategic, same ▸ by decide, (Option.some.inj found).symm⟩
  split at found
  · next same => exact ⟨.replicaSets, same ▸ by decide, (Option.some.inj found).symm⟩
  · cases found

end Rollback
