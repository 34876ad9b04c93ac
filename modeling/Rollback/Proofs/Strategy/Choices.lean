import Rollback.Proofs.Server.Replies
import Rollback.Proofs.Strategy.Stages

/-! What is decided for a workload is a function of the workload and of the list that answers the
question for its history. -/
namespace Rollback

open Api

variable {σ : Type}

/-- A revision that was chosen: its number, the template that the workload has and the one that it is
to have, and what is sent for that. -/
structure Choice where
  number : Int
  live : Json
  template : Json
  kind : PatchKind
  path : String
  body : Json

/-- What is done about a choice: nothing if the template is that of the revision already. -/
def Choice.decision (c : Choice) : Decision :=
  if Template.agree c.live c.template then .skip c.number
  else .restore c.template c.kind c.path c.body

section Programs

variable {τ ε α β : Type}

theorem ok_of_bind {first : Except ε α} {next : α → Except ε β} {b : β}
    (done : first >>= next = .ok b) : ∃ a, first = .ok a ∧ next a = .ok b := by
  cases first with
  | error e => cases done
  | ok a => exact ⟨a, rfl, done⟩

theorem liftExcept_bind (answer : Except ε α) (next : α → Except ε β) :
    (liftM (answer >>= next) : ExceptT ε (StateM τ) β) =
      liftM answer >>= fun a => liftM (next a) := by
  cases answer <;> rfl

theorem bind_liftExcept_ok (a : α) (next : α → ExceptT ε (StateM τ) β) :
    (liftM (Except.ok a : Except ε α) : ExceptT ε (StateM τ) α) >>= next = next a := rfl

theorem bind_liftExcept_pure (a : α) (next : α → ExceptT ε (StateM τ) β) :
    (liftM (pure a : Except ε α) : ExceptT ε (StateM τ) α) >>= next = next a := rfl

end Programs

namespace DeploymentRollback

def query (h : Handle) : Except Cause (Option HttpRequest) := do
  let d ← ready h
  let labels ← d.spec.selector.render.mapError fun fault => Cause.plain fault.message
  pure (HttpRequest.listAt (appsPath "replicasets" d.ns) (some labels))

def choice (h : Handle) (selector : RevisionSelector) (items : List ReplicaSet) :
    Except Cause Choice := do
  let d ← ready h
  let (number, rs, wanted) ← choose d items selector
  pure ⟨number, d.spec.template, wanted, .strategic, d.path,
    patch wanted (Annotations.rolledBack d.annotations rs.metadata.annotations)⟩

theorem decide_eq (server : Server σ) (h : Handle) (selector : RevisionSelector) :
    decide server h selector = (do
      let request? ← query h
      let items ← server.fetch "list replicasets" request? (readList ReplicaSet.ofJson?)
      let c ← choice h selector items
      pure c.decision) := by
  unfold decide query choice
  cases found : ready h with
  | error cause => rfl
  | ok d =>
    simp only [liftExcept_bind, bind_liftExcept_ok, bind_liftExcept_pure, bind_assoc]
    refine bind_congr fun labels => bind_congr fun items => bind_congr ?_
    rintro ⟨number, rs, wanted⟩
    simp only [Choice.decision]
    split <;> rfl

theorem reads_of_query {h : Handle} {r : HttpRequest} (asked : query h = .ok (some r)) : r.Reads := by
  obtain ⟨d, _, asked⟩ := ok_of_bind asked
  obtain ⟨labels, _, asked⟩ := ok_of_bind asked
  exact HttpRequest.reads_of_listAt (Except.ok.inj asked)

theorem mem_history {items : List ReplicaSet} {uid : String} {number : Int} {rs : ReplicaSet} :
    (number, rs) ∈ history items uid ↔
      rs ∈ items ∧ rs.metadata.isControlledBy uid = true ∧ revision? rs = some number := by
  simp only [history, List.mem_filterMap, List.mem_filter, Option.map_eq_some_iff, Prod.mk.injEq]
  constructor
  · rintro ⟨rs, ⟨listed, controlled⟩, number, numbered, rfl, rfl⟩
    exact ⟨listed, controlled, numbered⟩
  · rintro ⟨listed, controlled, numbered⟩
    exact ⟨rs, ⟨listed, controlled⟩, number, numbered, rfl, rfl⟩

theorem choose_eq_ok {d : Ready} {items : List ReplicaSet} {selector : RevisionSelector}
    {number : Int} {rs : ReplicaSet} {wanted : Json} :
    choose d items selector = .ok (number, rs, wanted) ↔
      (history items d.uid).select selector = .ok (number, rs) ∧
        rs.template?.map Template.withoutHash = some wanted := by
  unfold choose
  rcases (history items d.uid).select selector with fault | ⟨number', rs'⟩
  · simp
  · cases held : rs'.template? with
    | none =>
      simp only [held, reduceCtorEq, Except.ok.injEq, Prod.mk.injEq, false_iff, not_and]
      rintro ⟨-, rfl⟩
      simp [held]
    | some template =>
      simp only [held, Except.ok.injEq, Prod.mk.injEq]
      constructor
      · rintro ⟨rfl, rfl, rfl⟩
        simp [held]
      · rintro ⟨⟨rfl, rfl⟩, wanted⟩
        simpa [held] using wanted

theorem choice_eq_ok {h : Handle} {selector : RevisionSelector} {items : List ReplicaSet}
    {c : Choice} :
    choice h selector items = .ok c ↔
      ∃ d number rs wanted, ready h = .ok d ∧ choose d items selector = .ok (number, rs, wanted) ∧
        c = ⟨number, d.spec.template, wanted, .strategic, d.path,
          patch wanted (Annotations.rolledBack d.annotations rs.metadata.annotations)⟩ := by
  unfold choice
  cases ready h with
  | error cause => simp
  | ok d =>
    cases chosen : choose d items selector with
    | error cause => simp [chosen]
    | ok revision =>
      obtain ⟨number, rs, wanted⟩ := revision
      simp only [bind, Except.bind, pure, Except.pure, chosen, Except.ok.injEq]
      constructor
      · rintro rfl
        exact ⟨d, number, rs, wanted, rfl, chosen, rfl⟩
      · rintro ⟨_, _, _, _, rfl, chosen', rfl⟩
        cases chosen.symm.trans chosen'
        rfl

end DeploymentRollback

namespace RevisionRollback

def query (h : Handle) : Except Cause (Option HttpRequest) := do
  let place ← coordinates h.object
  let labelSelector ← selectorOf h.gvk.kind place.name h.object
  let labels ← labelSelector.render.mapError fun fault => Cause.plain fault.message
  pure (HttpRequest.listAt (resourcePath "apps" "apps/v1" "controllerrevisions" (some place.ns))
    (some labels))

def choice (kind : PatchKind) (h : Handle) (selector : RevisionSelector)
    (items : List ControllerRevision) : Except Cause Choice := do
  let place ← coordinates h.object
  let chosen ← choose items place.uid selector
  pure ⟨chosen.number, liveTemplate h, chosen.template, kind, workloadPath h.gvk place.ns place.name,
    patch kind (liveTemplate h) chosen⟩

theorem decide_eq (server : Server σ) (kind : PatchKind) (h : Handle) (selector : RevisionSelector) :
    decide server kind h selector = (do
      let request? ← query h
      let items ← server.fetch "list controllerrevisions" request?
        (readList ControllerRevision.ofJson?)
      let c ← choice kind h selector items
      pure c.decision) := by
  unfold decide query choice
  cases found : coordinates h.object with
  | error cause => rfl
  | ok place =>
    simp only [liftExcept_bind, bind_liftExcept_ok, bind_liftExcept_pure, bind_assoc]
    refine bind_congr fun labelSelector => bind_congr fun labels => bind_congr fun items =>
      bind_congr fun chosen => ?_
    simp only [Choice.decision]
    split <;> rfl

theorem reads_of_query {h : Handle} {r : HttpRequest} (asked : query h = .ok (some r)) : r.Reads := by
  obtain ⟨place, _, asked⟩ := ok_of_bind asked
  obtain ⟨labelSelector, _, asked⟩ := ok_of_bind asked
  obtain ⟨labels, _, asked⟩ := ok_of_bind asked
  exact HttpRequest.reads_of_listAt (Except.ok.inj asked)

theorem mem_history {items : List ControllerRevision} {uid : String} {number : Int}
    {r : ControllerRevision} :
    (number, r) ∈ history items uid ↔
      r ∈ items ∧ r.metadata.isControlledBy uid = true ∧ r.revision = number := by
  simp only [history, List.mem_map, List.mem_filter, Prod.mk.injEq]
  constructor
  · rintro ⟨r, ⟨listed, controlled⟩, numbered, rfl⟩
    exact ⟨listed, controlled, numbered⟩
  · rintro ⟨listed, controlled, numbered⟩
    exact ⟨r, ⟨listed, controlled⟩, numbered, rfl⟩

theorem choose_eq_ok {items : List ControllerRevision} {uid : String} {selector : RevisionSelector}
    {chosen : Chosen} :
    choose items uid selector = .ok chosen ↔
      ∃ r, (history items uid).select selector = .ok (chosen.number, r) ∧
        r.data? = some chosen.data ∧ Template.ofRevision? chosen.data = some chosen.template := by
  unfold choose
  rcases (history items uid).select selector with fault | ⟨number, r⟩
  · simp
  · cases data : r.data? with
    | none =>
      simp only [data, Except.ok.injEq, Prod.mk.injEq]
      constructor
      · nofun
      · rintro ⟨r', ⟨-, rfl⟩, data', -⟩
        cases data.symm.trans data'
    | some stored =>
      cases template : Template.ofRevision? stored with
      | none =>
        simp only [data, template, Except.ok.injEq, Prod.mk.injEq]
        constructor
        · nofun
        · rintro ⟨r', ⟨-, rfl⟩, data', template'⟩
          cases data.symm.trans data'
          cases template.symm.trans template'
      | some wanted =>
        simp only [data, template, pure, Except.pure, Except.ok.injEq, Prod.mk.injEq]
        constructor
        · rintro rfl
          exact ⟨r, ⟨rfl, rfl⟩, data, template⟩
        · rintro ⟨r', ⟨rfl, rfl⟩, data', template'⟩
          cases data.symm.trans data'
          cases template.symm.trans template'
          rfl

theorem choice_eq_ok {kind : PatchKind} {h : Handle} {selector : RevisionSelector}
    {items : List ControllerRevision} {c : Choice} :
    choice kind h selector items = .ok c ↔
      ∃ place chosen, coordinates h.object = .ok place ∧
        choose items place.uid selector = .ok chosen ∧
          c = ⟨chosen.number, liveTemplate h, chosen.template, kind,
            workloadPath h.gvk place.ns place.name, patch kind (liveTemplate h) chosen⟩ := by
  unfold choice
  cases coordinates h.object with
  | error cause => simp
  | ok place =>
    cases chosen : choose items place.uid selector with
    | error cause => simp [chosen]
    | ok revision => simp [chosen, eq_comm]

end RevisionRollback

namespace Procedure

/-- What the history of a workload consists of. -/
def Item : Procedure → Type
  | replicaSets => ReplicaSet
  | revisions _ => ControllerRevision

def item? : (p : Procedure) → Json → Option p.Item
  | replicaSets => ReplicaSet.ofJson?
  | revisions _ => ControllerRevision.ofJson?

def query : Procedure → Handle → Except Cause (Option HttpRequest)
  | replicaSets => DeploymentRollback.query
  | revisions _ => RevisionRollback.query

def listing : Procedure → String
  | replicaSets => "list replicasets"
  | revisions _ => "list controllerrevisions"

def choice : (p : Procedure) → Handle → RevisionSelector → List p.Item → Except Cause Choice
  | replicaSets => DeploymentRollback.choice
  | revisions kind => RevisionRollback.choice kind

theorem reads_of_query {p : Procedure} {h : Handle} {r : HttpRequest}
    (asked : p.query h = .ok (some r)) : r.Reads := by
  cases p with
  | replicaSets => exact DeploymentRollback.reads_of_query asked
  | revisions kind => exact RevisionRollback.reads_of_query asked

variable (p : Procedure) (server : Server σ) (h : Handle) (selector : RevisionSelector)

theorem decide_eq :
    p.decide server h selector = (do
      let request? ← p.query h
      let items ← server.fetch p.listing request? (readList p.item?)
      let c ← p.choice h selector items
      pure c.decision) := by
  cases p with
  | replicaSets => exact DeploymentRollback.decide_eq server h selector
  | revisions kind => exact RevisionRollback.decide_eq server kind h selector

/-- What is decided when the history is answered with a reply. -/
def decided (reply : Reply) : Except Cause Decision :=
  (server.brings p.listing (readList p.item?) reply).bind fun items =>
    (p.choice h selector items).map Choice.decision

variable {h} in
theorem run_decide {r : HttpRequest} (asked : p.query h = .ok (some r)) (s : Session σ) :
    (p.decide server h selector).run s =
      (p.decided server h selector (server.send r s.world).1,
        s.sent r (server.send r s.world).2) := by
  rw [decide_eq, asked, bind_liftExcept_ok, run_bind_apply, Server.run_fetch, decided]
  cases server.brings p.listing (readList p.item?) (server.send r s.world).1 with
  | error cause => rfl
  | ok items =>
    dsimp only [Except.bind]
    cases p.choice h selector items <;> rfl

variable {p server h selector}

/-- What a decision comes from: the list that was asked for, and the choice among its items. -/
theorem decide_ok {decision : Decision} {s t : Session σ}
    (done : (p.decide server h selector).run s = (.ok decision, t)) :
    ∃ r document items c, p.query h = .ok (some r) ∧
      (server.send r s.world).1.document? = some document ∧
        readList p.item? document = some items ∧ p.choice h selector items = .ok c ∧
          decision = c.decision ∧ t = s.sent r (server.send r s.world).2 := by
  cases asked : p.query h with
  | error cause =>
    rw [decide_eq, asked] at done
    cases done
  | ok request? =>
    cases request? with
    | none =>
      rw [decide_eq, asked] at done
      cases done
    | some r =>
      rw [p.run_decide server selector asked, Prod.mk.injEq] at done
      obtain ⟨outcome, rfl⟩ := done
      rw [decided] at outcome
      cases brought : server.brings p.listing (readList p.item?) (server.send r s.world).1 with
      | error cause =>
        rw [brought] at outcome
        cases outcome
      | ok items =>
        obtain ⟨document, given, read⟩ := server.document_of_brings brought
        cases chosen : p.choice h selector items with
        | error cause =>
          rw [brought, Except.bind, chosen] at outcome
          cases outcome
        | ok c =>
          rw [brought, Except.bind, chosen] at outcome
          cases outcome
          exact ⟨r, document, items, c, rfl, given, read, chosen, rfl, rfl⟩

variable {r : HttpRequest} {document : Json} {items : List p.Item} {c : Choice}

/-- A rollback with a choice carries it out. -/
theorem strategy_of_choice {s : Session σ} (asked : p.query h = .ok (some r))
    (given : (server.send r s.world).1.document? = some document)
    (read : readList p.item? document = some items) (chosen : p.choice h selector items = .ok c)
    (dryRun : DryRun) :
    p.strategy server h selector dryRun s =
      (p.carryOut server dryRun c.decision).run (s.sent r (server.send r s.world).2) := by
  rw [strategy_eq, run_bind_apply, p.run_decide server selector asked, decided,
    server.brings_of_document given, read]
  simp only [Except.bind, chosen, Except.map]

/-- A choice that differs from what is live is carried out by its change. -/
theorem requests_of_differs (differs : Template.agree c.live c.template = false) {dryRun : DryRun}
    (mode : dryRun ≠ .client) {change : HttpRequest}
    (built : HttpRequest.patchAt c.path (dryRun == .server) c.kind c.body = some change)
    (t : Session σ) :
    ((p.carryOut server dryRun c.decision).run t).2.requests = t.requests ++ [change] := by
  have decision : c.decision = .restore c.template c.kind c.path c.body :=
    if_neg (by simp [differs])
  rw [decision, p.carryOut_requests, Decision.change?, if_neg mode, built]
  rfl

/-- A change comes from a choice, after the question for the history. -/
theorem choice_of_change {dryRun : DryRun} {s : Session σ} {more : List HttpRequest}
    {change : HttpRequest} {kind : PatchKind} {body : Json}
    (requests : (p.strategy server h selector dryRun s).2.requests = s.requests ++ more)
    (sent : change ∈ more) (patch : change.patch? = some (kind, body)) :
    ∃ r document items c, p.query h = .ok (some r) ∧
      (server.send r s.world).1.document? = some document ∧
        readList p.item? document = some items ∧ p.choice h selector items = .ok c ∧
          Template.agree c.live c.template = false ∧ c.kind = kind ∧ c.body = body ∧
            dryRun ≠ .client ∧ HttpRequest.patchAt c.path (dryRun == .server) kind body = some change ∧
              more = [r, change] := by
  have unread : ¬ change.Reads := by
    intro reads
    rw [HttpRequest.Reads, patch] at reads
    cases reads
  rw [strategy_eq, run_bind_apply] at requests
  rcases run : (p.decide server h selector).run s with ⟨cause | decision, t⟩
  -- Without a decision nothing was sent but reads.
  · rw [run] at requests
    obtain ⟨reads, only, all⟩ := (p.onlyReads_decide server h selector s).sent
    rw [run, requests] at only
    obtain rfl := List.append_cancel_left only
    exact absurd (all change sent) unread
  · obtain ⟨r, document, items, c, asked, given, read, chosen, rfl, rfl⟩ := decide_ok run
    rw [run] at requests
    dsimp only at requests
    rw [p.carryOut_requests] at requests
    rw [Session.sent, List.append_assoc] at requests
    have inMore : more = [r] ++ (c.decision.change? dryRun).toList :=
      (List.append_cancel_left requests).symm
    -- The question for the history is no change, so that it is the decision's.
    have isChange : c.decision.change? dryRun = some change := by
      rw [inMore] at sent
      rcases List.mem_append.mp sent with asks | changes
      · obtain rfl := List.mem_singleton.mp asks
        exact absurd (reads_of_query asked) unread
      · exact Option.mem_toList.mp changes
    rw [isChange] at inMore
    cases agrees : Template.agree c.live c.template with
    | true =>
      rw [Choice.decision, if_pos agrees] at isChange
      cases isChange
    | false =>
      rw [Choice.decision, if_neg (by simp [agrees]), Decision.change?] at isChange
      by_cases mode : dryRun = .client
      · rw [if_pos mode] at isChange
        cases isChange
      · rw [if_neg mode] at isChange
        obtain ⟨location, _, rfl⟩ := Option.map_eq_some_iff.mp isChange
        obtain ⟨rfl, rfl⟩ : c.kind = kind ∧ c.body = body := by simpa using patch
        exact ⟨r, document, items, c, asked, given, read, chosen, agrees, rfl, rfl, mode, isChange,
          inMore⟩

end Procedure

end Rollback
