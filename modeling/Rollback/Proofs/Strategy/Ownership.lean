import Rollback.Proofs.Strategy.Choices
import Rollback.Proofs.Strategy.DryRun
import Rollback.Proofs.Strategy.Requisites

/-! A rollback depends on nothing in the history but the items that its workload owns: items of others
may be added to the list that is answered, or taken from it, without a difference. -/
namespace Rollback

open Api

section Lists

variable {α β : Type} {extra : α → Prop} {extra' : β → Prop} {left right : List α}

/-- Two lists with the same items in one order, and extra ones anywhere in both. -/
inductive Padded (extra : α → Prop) : List α → List α → Prop where
  | nil : Padded extra [] []
  | keep (a : α) {left right : List α} (rest : Padded extra left right) :
      Padded extra (a :: left) (a :: right)
  | left {a : α} (out : extra a) {left right : List α} (rest : Padded extra left right) :
      Padded extra (a :: left) right
  | right {a : α} (out : extra a) {left right : List α} (rest : Padded extra left right) :
      Padded extra left (a :: right)

/-- What is left without the extra items is the same. -/
theorem Padded.filterMap_eq {f : α → Option β} (skips : ∀ a, extra a → f a = none)
    (padded : Padded extra left right) : left.filterMap f = right.filterMap f := by
  induction padded with
  | nil => rfl
  | keep a rest ih => rw [List.filterMap_cons, List.filterMap_cons, ih]
  | left out rest ih => rw [List.filterMap_cons, skips _ out, ih]
  | right out rest ih => rw [List.filterMap_cons, skips _ out, ih]

/-- When the extra items can be read, both lists are read or neither is. -/
theorem Padded.mapM_eq {read? : α → Option β}
    (readable : ∀ a, extra a → ∃ b, read? a = some b ∧ extra' b) (padded : Padded extra left right) :
    (left.mapM read? = none ∧ right.mapM read? = none) ∨
      ∃ ls rs, left.mapM read? = some ls ∧ right.mapM read? = some rs ∧ Padded extra' ls rs := by
  induction padded with
  | nil => exact .inr ⟨[], [], rfl, rfl, .nil⟩
  | keep a rest ih =>
    rw [List.mapM_cons, List.mapM_cons]
    cases read? a with
    | none => exact .inl ⟨rfl, rfl⟩
    | some b =>
      rcases ih with ⟨none, none'⟩ | ⟨ls, rs, all, all', padded⟩
      · exact .inl ⟨by rw [none]; rfl, by rw [none']; rfl⟩
      · exact .inr ⟨b :: ls, b :: rs, by rw [all]; rfl, by rw [all']; rfl, .keep b padded⟩
  | left out rest ih =>
    obtain ⟨b, read, out'⟩ := readable _ out
    rw [List.mapM_cons, read]
    rcases ih with ⟨none, none'⟩ | ⟨ls, rs, all, all', padded⟩
    · exact .inl ⟨by rw [none]; rfl, none'⟩
    · exact .inr ⟨b :: ls, rs, by rw [all]; rfl, all', .left out' padded⟩
  | right out rest ih =>
    obtain ⟨b, read, out'⟩ := readable _ out
    rw [List.mapM_cons, read]
    rcases ih with ⟨none, none'⟩ | ⟨ls, rs, all, all', padded⟩
    · exact .inl ⟨none, by rw [none']; rfl⟩
    · exact .inr ⟨ls, b :: rs, all, by rw [all']; rfl, .right out' padded⟩

end Lists

/-- Replies that are equal, or lists with equal metadata and items, but for extra ones. -/
inductive Reply.SameButExtra (extra : Json → Prop) : Reply → Reply → Prop where
  | same (reply : Reply) : SameButExtra extra reply reply
  | lists {left right : Reply} {l r : Json} {ls rs : List Json} (given : left.document? = some l)
      (given' : right.document? = some r) (metadata : l.get? "metadata" = r.get? "metadata")
      (items : listItems? l = some ls) (items' : listItems? r = some rs)
      (padded : Padded extra ls rs) : SameButExtra extra left right

/-- Servers that do the same, but that one may list extra items where the other does not. -/
structure Server.SameButExtra {σ : Type} (extra : Json → Prop) (left right : Server σ) : Prop where
  settings : left.settings = right.settings
  worlds : ∀ r w, (left.send r w).2 = (right.send r w).2
  changes : ∀ r w, ¬ r.Reads → (left.send r w).1 = (right.send r w).1
  lists : ∀ r w, r.Reads → Reply.SameButExtra extra (left.send r w).1 (right.send r w).1

namespace Server

variable {σ α β : Type} {left right : Server σ} {extra : Json → Prop} {extra' : α → Prop}
  {item? : Json → Option α}

theorem brings_congr (settings : left.settings = right.settings) (what : String)
    (read? : Json → Option α) (reply : Reply) :
    left.brings what read? reply = right.brings what read? reply := by
  cases reply <;> simp only [brings, textOf, settings]

/-- What does not look at extra items makes the same of both lists. -/
theorem brings_bind_of_sameButExtra (settings : left.settings = right.settings)
    (readable : ∀ v, extra v → ∃ item, item? v = some item ∧ extra' item) {l r : Reply}
    (alike : Reply.SameButExtra extra l r) (what : String) {next : List α → Except Cause β}
    (blind : ∀ as bs, Padded extra' as bs → next as = next bs) :
    (left.brings what (readList item?) l).bind next =
      (right.brings what (readList item?) r).bind next := by
  cases alike with
  | same => rw [brings_congr settings]
  | lists given given' metadata items items' padded =>
    rw [left.brings_of_document given, right.brings_of_document given', readList_eq, readList_eq,
      metadata, items, items']
    cases (Json.get? "metadata" _).bind listMetadataSchema.read with
    | none => rfl
    | some _ =>
      simp only [Option.bind_some]
      rcases Padded.mapM_eq readable padded with ⟨none, none'⟩ | ⟨as, bs, all, all', padded⟩
      · rw [none, none']
      · rw [all, all']
        exact blind as bs padded

/-- Changes are answered in the same way. -/
theorem SameButExtra.run_fetch_change {request? : Option HttpRequest}
    (alike : left.SameButExtra extra right)
    (changes : ∀ r, request? = some r → ¬ r.Reads) (what : String) (read? : Json → Option α)
    (s : Session σ) :
    (left.fetch what request? read?).run s = (right.fetch what request? read?).run s := by
  cases request? with
  | none => rfl
  | some r =>
    rw [run_fetch, run_fetch, alike.worlds, alike.changes r _ (changes r rfl),
      brings_congr alike.settings]

end Server

theorem HttpRequest.not_reads_of_patchAt {path : String} {tryOnly : Bool} {kind : PatchKind}
    {body : Json} {r : HttpRequest} (built : HttpRequest.patchAt path tryOnly kind body = some r) :
    ¬ r.Reads := by
  obtain ⟨location, _, rfl⟩ := Option.map_eq_some_iff.mp built
  exact nofun

/-- An object whose controller has the uid of the workload. -/
def Api.Metadata.ControlledBy (m : Metadata) (h : Handle) : Prop :=
  ∃ uid, h.object.textAt? ["metadata", "uid"] = some uid ∧ m.isControlledBy uid = true

namespace DeploymentRollback

/-- A numbered replica set that the workload controls. -/
def Owned (h : Handle) (rs : ReplicaSet) : Prop :=
  rs.metadata.ControlledBy h ∧ (revision? rs).isSome

theorem uid_of_ready {h : Handle} {d : Ready} (found : ready h = .ok d) :
    h.object.textAt? ["metadata", "uid"] = some d.uid := by
  obtain ⟨deployment, read, _, _, known, _⟩ := ready_eq_ok.mp found
  exact (Deployment.uid_of_ofJson? read).symm.trans known

theorem choice_of_padded {h : Handle} {selector : RevisionSelector} {left right : List ReplicaSet}
    (padded : Padded (fun rs => ¬ Owned h rs) left right) :
    choice h selector left = choice h selector right := by
  unfold choice
  cases found : ready h with
  | error cause => rfl
  | ok d =>
    have same : choose d left selector = choose d right selector := by
      unfold choose history
      rw [List.filterMap_filter, List.filterMap_filter]
      rw [padded.filterMap_eq fun rs foreign => ?_]
      by_cases controlled : rs.metadata.isControlledBy d.uid = true
      · have unnumbered : revision? rs = none := by
          simpa using fun number => foreign ⟨⟨d.uid, uid_of_ready found, controlled⟩, number⟩
        simp [controlled, unnumbered]
      · simp [controlled]
    simp only [bind, Except.bind, same]

end DeploymentRollback

namespace RevisionRollback

theorem choice_of_padded {kind : PatchKind} {h : Handle} {selector : RevisionSelector}
    {left right : List ControllerRevision}
    (padded : Padded (fun r => ¬ r.metadata.ControlledBy h) left right) :
    choice kind h selector left = choice kind h selector right := by
  unfold choice
  cases found : coordinates h.object with
  | error cause => rfl
  | ok place =>
    have same : choose left place.uid selector = choose right place.uid selector := by
      unfold choose history
      rw [← List.filterMap_eq_map, List.filterMap_filter, List.filterMap_filter]
      rw [padded.filterMap_eq fun r foreign => ?_]
      have uncontrolled : ¬ r.metadata.isControlledBy place.uid = true := fun controlled =>
        foreign ⟨place.uid, (coordinates_eq_ok.mp found).2.2, controlled⟩
      simp [uncontrolled]
    simp only [bind, Except.bind, same]

end RevisionRollback

namespace Procedure

/-- An item of the history that the workload owns; a replica set has to have a number, too. -/
def Owned : (p : Procedure) → Handle → p.Item → Prop
  | replicaSets => DeploymentRollback.Owned
  | revisions _ => fun h (r : ControllerRevision) => r.metadata.ControlledBy h

/-- The document of an item that the workload does not own. -/
def Foreign (p : Procedure) (h : Handle) (v : Json) : Prop :=
  ∃ item, p.item? v = some item ∧ ¬ p.Owned h item

/-- An item that holds the template of a revision. -/
def Keeps : (p : Procedure) → p.Item → Int → Json → Prop
  | replicaSets => fun rs number template =>
    DeploymentRollback.revision? rs = some number ∧ rs.template?.map Template.withoutHash = some template
  | revisions _ => fun (r : ControllerRevision) number template =>
    r.revision = number ∧ r.data?.bind Template.ofRevision? = some template

variable {p : Procedure} {h : Handle} {selector : RevisionSelector}

theorem choice_of_padded {left right : List p.Item}
    (padded : Padded (fun item => ¬ p.Owned h item) left right) :
    p.choice h selector left = p.choice h selector right := by
  cases p with
  | replicaSets => exact DeploymentRollback.choice_of_padded padded
  | revisions kind => exact RevisionRollback.choice_of_padded padded

/-- What is chosen is the template of an item that the workload owns. -/
theorem owned_of_choice {items : List p.Item} {c : Choice}
    (chosen : p.choice h selector items = .ok c) :
    ∃ item ∈ items, p.Owned h item ∧ p.Keeps item c.number c.template := by
  cases p with
  | replicaSets =>
    obtain ⟨d, number, rs, wanted, found, chose, rfl⟩ := DeploymentRollback.choice_eq_ok.mp chosen
    obtain ⟨selected, template⟩ := DeploymentRollback.choose_eq_ok.mp chose
    obtain ⟨listed, controlled, numbered⟩ :=
      DeploymentRollback.mem_history.mp (History.mem_of_select selected)
    have uid := DeploymentRollback.uid_of_ready found
    exact ⟨rs, listed, ⟨⟨d.uid, uid, controlled⟩, by rw [numbered]; rfl⟩, numbered, template⟩
  | revisions kind =>
    obtain ⟨place, chosen, found, chose, rfl⟩ := RevisionRollback.choice_eq_ok.mp chosen
    obtain ⟨r, selected, data, template⟩ := RevisionRollback.choose_eq_ok.mp chose
    obtain ⟨listed, controlled, numbered⟩ :=
      RevisionRollback.mem_history.mp (History.mem_of_select selected)
    have uid := (RevisionRollback.coordinates_eq_ok.mp found).2.2
    exact ⟨r, listed, ⟨place.uid, uid, controlled⟩, numbered, by rw [data]; exact template⟩

variable {σ : Type} {left right : Server σ}

theorem decide_of_sameButExtra
    (alike : left.SameButExtra (p.Foreign h) right) (selector : RevisionSelector) :
    (p.decide left h selector).run = (p.decide right h selector).run := by
  funext s
  cases asked : p.query h with
  | error cause =>
    rw [decide_eq, decide_eq, asked]
    rfl
  | ok request? =>
    cases request? with
    | none =>
      rw [decide_eq, decide_eq, asked]
      rfl
    | some r =>
      rw [p.run_decide left selector asked, p.run_decide right selector asked, alike.worlds]
      refine congrArg (·, _) ?_
      refine Server.brings_bind_of_sameButExtra alike.settings (fun v foreign => foreign)
        (alike.lists r s.world (reads_of_query asked)) p.listing fun as bs padded => ?_
      rw [choice_of_padded padded]

theorem carryOut_of_sameButExtra {extra : Json → Prop} (alike : left.SameButExtra extra right)
    (dryRun : DryRun)
    (decision : Decision) :
    (p.carryOut left dryRun decision).run = (p.carryOut right dryRun decision).run := by
  have same {α : Type} (what : String) (read? : Json → Option α) :
      (decision.carryOut left what read? dryRun).run =
        (decision.carryOut right what read? dryRun).run := by
    funext s
    cases decision with
    | skip number => rfl
    | restore template kind path body =>
      simp only [Decision.carryOut]
      split
      · rfl
      · rw [run_bind_apply, run_bind_apply, alike.run_fetch_change fun r =>
          HttpRequest.not_reads_of_patchAt]
  cases p with
  | replicaSets => exact same _ _
  | revisions kind => exact same _ _

/-- The server lists an item that the workload owns, and that holds the template of a revision. -/
def Offers (p : Procedure) (server : Server σ) (h : Handle) (s : Session σ) (number : Int)
    (template : Json) : Prop :=
  ∃ r document items, p.query h = .ok (some r) ∧
    (server.send r s.world).1.document? = some document ∧ listItems? document = some items ∧
      ∃ v ∈ items, ∃ item, p.item? v = some item ∧ p.Owned h item ∧ p.Keeps item number template

/-- What a rollback comes to, where `before` are the requests up to its end or up to its change: it
fails, or it skips, shows or sends a template that is offered. -/
inductive Draws (p : Procedure) (h : Handle) (offered : Int → Json → Prop) (dryRun : DryRun)
    (before : List HttpRequest) : Except Cause String → List HttpRequest → Prop where
  | failed (cause : Cause) : Draws p h offered dryRun before (.error cause) before
  | skipped {number : Int} {template : Json} (source : offered number template) :
      Draws p h offered dryRun before (.ok (Template.skipped number)) before
  | shown {number : Int} {template : Json} (source : offered number template)
      (mode : dryRun = .client) : Draws p h offered dryRun before (.ok (Yaml.render template)) before
  | changed {number : Int} {template body : Json} {path : String} {kind : PatchKind}
      {r : HttpRequest} (source : offered number template) (mode : dryRun ≠ .client)
      (restores : p.Restores h template body)
      (built : HttpRequest.patchAt path (dryRun == .server) kind body = some r)
      (answer : Except Cause String) : Draws p h offered dryRun before answer (before ++ [r])

theorem offers_of_choice {server : Server σ} {s : Session σ} {r : HttpRequest} {document : Json}
    {items : List p.Item} {c : Choice} (asked : p.query h = .ok (some r))
    (given : (server.send r s.world).1.document? = some document)
    (read : readList p.item? document = some items) (chosen : p.choice h selector items = .ok c) :
    p.Offers server h s c.number c.template := by
  obtain ⟨item, member, owned, holds⟩ := owned_of_choice chosen
  obtain ⟨vs, v, listed, inside, source⟩ := source_of_readList read member
  exact ⟨r, document, vs, asked, given, listed, v, inside, item, source, owned, holds⟩

theorem draws_of_carryOut {server : Server σ} {offered : Int → Json → Prop} {number : Int}
    {template body : Json} {kind : PatchKind} {path : String} (source : offered number template)
    (restores : p.Restores h template body) (dryRun : DryRun) (t : Session σ) :
    p.Draws h offered dryRun t.requests
      ((p.carryOut server dryRun (.restore template kind path body)).run t).1
      ((p.carryOut server dryRun (.restore template kind path body)).run t).2.requests := by
  have sent := p.carryOut_requests server dryRun (.restore template kind path body) t
  rw [sent]
  by_cases mode : dryRun = .client
  · subst mode
    have shown : ((p.carryOut server .client (.restore template kind path body)).run t).1 =
        .ok (Yaml.render template) := by cases p <;> rfl
    simpa [shown, Decision.change?] using Draws.shown source rfl
  · cases built : HttpRequest.patchAt path (dryRun == .server) kind body with
    | none =>
      have failed : ∃ cause, ((p.carryOut server dryRun (.restore template kind path body)).run t).1 =
          .error cause := by
        cases p <;>
        · simp only [carryOut, Decision.carryOut, if_neg mode, built]
          exact ⟨_, rfl⟩
      obtain ⟨cause, failed⟩ := failed
      simpa [failed, Decision.change?, mode, built] using Draws.failed cause
    | some r =>
      simpa [Decision.change?, mode, built] using Draws.changed source mode restores built _

theorem draws_of_strategy (p : Procedure) (server : Server σ) {h : Handle}
    (sorted : h.object.Sorted) (selector : RevisionSelector) (dryRun : DryRun) (s : Session σ) :
    ∃ reads, (∀ r ∈ reads, r.Reads) ∧
      p.Draws h (p.Offers server h s) dryRun (s.requests ++ reads)
        (p.strategy server h selector dryRun s).1
        (p.strategy server h selector dryRun s).2.requests := by
  obtain ⟨reads, requests, onlyReads⟩ := (p.onlyReads_decide server h selector s).sent
  refine ⟨reads, onlyReads, ?_⟩
  rw [strategy_eq, run_bind_apply]
  rcases decided : (p.decide server h selector).run s with ⟨cause | decision, t⟩
  · rw [decided] at requests
    rw [← requests]
    exact .failed cause
  · rw [decided] at requests
    rw [← requests]
    obtain ⟨r, document, items, c, asked, given, read, chosen, rfl, -⟩ := decide_ok decided
    have source := offers_of_choice asked given read chosen
    by_cases same : Template.agree c.live c.template = true
    · rw [Choice.decision, if_pos same]
      cases p <;> exact .skipped source
    · rw [Choice.decision, if_neg same] at decided ⊢
      exact draws_of_carryOut source (restores_of_decide sorted decided) dryRun t

/-- Two servers that differ in items that the workload does not own are the same for a rollback: it
ends in the same way, after the same requests. All that it skips, shows or sends is the template of an
item that the workload owns. -/
theorem strategy_ignores_foreign (p : Procedure) {left right : Server σ} {h : Handle}
    (sorted : h.object.Sorted) (alike : left.SameButExtra (p.Foreign h) right)
    (selector : RevisionSelector) (dryRun : DryRun) (s : Session σ) :
    p.strategy left h selector dryRun s = p.strategy right h selector dryRun s ∧
      ∃ reads, (∀ r ∈ reads, r.Reads) ∧
        p.Draws h (p.Offers left h s) dryRun (s.requests ++ reads)
          (p.strategy left h selector dryRun s).1
          (p.strategy left h selector dryRun s).2.requests := by
  refine ⟨?_, p.draws_of_strategy left sorted selector dryRun s⟩
  rw [strategy_eq, strategy_eq, run_bind_apply, run_bind_apply, decide_of_sameButExtra alike]
  rcases (p.decide right h selector).run s with ⟨cause | decision, t⟩
  · rfl
  · exact congrFun (carryOut_of_sameButExtra alike dryRun decision) t

end Procedure

/-! Servers that list controller revisions and do not answer to changes. -/
namespace Listings

def text (uid : String) (template : List String) : List String :=
  ["\x7b\"metadata\":", "\x7b\"owner", "References\":", "[\x7b\"uid\":\"", uid, "\",", "\"controller\"",
    ":true\x7d]\x7d,", "\"revision\":1,", "\"data\":", "\x7b\"spec\":", "\x7b\"template\":"] ++ template
    ++ ["\x7d\x7d\x7d"]

def revision (uid : String) (template : Json) : Json := .object
  [("data", .object [("spec", .object [("template", template)])]),
    ("metadata", .object [("ownerReferences",
      .array [.object [("controller", .bool true), ("uid", .string uid)]])]),
    ("revision", .integer 1)]

def page (items : List String) : List UInt8 :=
  (["\x7b\"metadata\":", "\x7b\x7d,\"items\":["] ++ items ++ ["]\x7d"]).flatMap fun piece =>
    piece.toList.map fun c => c.toNat.toUInt8

def server (items : List String) : Server Unit where
  send request := pure (if request.isPatch then .silence else .answer 200 (page items))
  settings := .ofEnvironment []

theorem send_of_reads {r : HttpRequest} (reads : r.Reads) (items : List String) (world : Unit) :
    ((server items).send r world).1 = .answer 200 (page items) := by
  have get : r.isPatch = false := by rw [HttpRequest.isPatch, reads]; rfl
  simp only [server, get, Bool.false_eq_true, if_false]
  rfl

theorem send_of_change {r : HttpRequest} (change : ¬ r.Reads) (items : List String) (world : Unit) :
    ((server items).send r world).1 = .silence := by
  have patch : r.isPatch = true := Option.isSome_iff_ne_none.mpr change
  simp only [server, patch, if_true]
  rfl

theorem document_of_page {items : List String} {r : HttpRequest} (reads : r.Reads) {document : Json}
    (parsed : (Text.decode (page items)).toOption.bind Json.ofChars? = some document) (world : Unit) :
    ((server items).send r world).1.document? = some document := by
  rw [send_of_reads reads, Reply.document?_answer rfl, parsed]

end Listings

/-! A daemon set that has one revision, on a server with a revision of another workload that has the same
number, and on a server without that. -/
namespace Strangers

def own : List String := Listings.text "u" ["\"old\""]

def others : List String := Listings.text "v" ["\"other\""]

def alone : Server Unit := Listings.server own

def crowded : Server Unit := Listings.server (others ++ [","] ++ own)

theorem documents :
    (Text.decode (Listings.page own)).toOption.bind Json.ofChars? =
        some (.object [("items", .array [Listings.revision "u" (.string "old")]),
          ("metadata", .object [])]) ∧
      (Text.decode (Listings.page (others ++ [","] ++ own))).toOption.bind Json.ofChars? =
        some (.object [("items", .array [Listings.revision "v" (.string "other"),
          Listings.revision "u" (.string "old")]), ("metadata", .object [])]) := by decide +kernel

theorem foreign : (Procedure.revisions .merge).Foreign Rehearsal.daemonSet
    (Listings.revision "v" (.string "other")) := by
  have uncontrolled : (ControllerRevision.ofJson? (Listings.revision "v" (.string "other"))).map
      (fun item => item.metadata.isControlledBy "u") = some false := by decide +kernel
  obtain ⟨item, read, uncontrolled⟩ := Option.map_eq_some_iff.mp uncontrolled
  refine ⟨item, read, ?_⟩
  rintro ⟨uid, known, controlled⟩
  obtain rfl : "u" = uid := Option.some.inj known
  rw [uncontrolled] at controlled
  cases controlled

theorem sameButExtra :
    alone.SameButExtra ((Procedure.revisions .merge).Foreign Rehearsal.daemonSet) crowded where
  settings := rfl
  worlds _ _ := rfl
  changes r w change := by
    rw [alone, crowded, Listings.send_of_change change, Listings.send_of_change change]
  lists r w reads := .lists (Listings.document_of_page reads documents.1 w)
    (Listings.document_of_page reads documents.2 w) rfl rfl rfl (.right foreign (.keep _ .nil))

end Strangers

theorem Rehearsal.sorted_daemonSet : Rehearsal.daemonSet.object.Sorted := by
  simp only [daemonSet, template, Json.Sorted, Json.SortedMembers, KeysIncrease]
  decide

theorem strategy_ignores_foreign_strangers :
    let run server := (Procedure.revisions .merge).strategy server Rehearsal.daemonSet (.exact 1) .client
      Rehearsal.session
    Strangers.alone.SameButExtra ((Procedure.revisions .merge).Foreign Rehearsal.daemonSet)
        Strangers.crowded ∧
      (run Strangers.alone).1 = .ok "old\n" ∧ run Strangers.alone = run Strangers.crowded := by
  exact ⟨Strangers.sameButExtra, by decide +kernel, (Procedure.strategy_ignores_foreign (.revisions .merge)
    Rehearsal.sorted_daemonSet Strangers.sameButExtra (.exact 1) .client Rehearsal.session).1⟩

end Rollback
