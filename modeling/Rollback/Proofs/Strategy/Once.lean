import Rollback.Proofs.Engine.Deduplication
import Rollback.Proofs.Strategy.Addresses
import Rollback.Proofs.Strategy.Journal

/-! No place is changed twice in a run. Paths of workloads tell their identities, and no identity is
handed to a strategy twice when the workloads that pointers name are the ones that are read. -/
namespace Rollback

open Engine Location RevisionRollback

variable {σ : Type}

theorem HttpRequest.isPatch_of_get {r : HttpRequest} (get : r.method = "GET") :
    r.isPatch = false := by
  unfold HttpRequest.isPatch
  unfold HttpRequest.method at get
  cases patch : r.patch?.isSome with
  | false => rfl
  | true => simp [patch] at get

theorem HttpRequest.isPatch_of_patch {r : HttpRequest} (patch : r.method = "PATCH") :
    r.isPatch = true := by
  unfold HttpRequest.isPatch
  unfold HttpRequest.method at patch
  cases some : r.patch?.isSome with
  | false => simp [some] at patch
  | true => rfl

/-- The changes among lawful requests, each with the object it is for, in the order of the attempts. -/
theorem changes_of_lawful {dryRun : DryRun} {catalog? : Option Catalog}
    {entries : List (Event × List HttpRequest)}
    (lawful : ∀ entry ∈ entries, Lawful dryRun catalog? entry.1 entry.2) :
    ∃ changes : List (Handle × HttpRequest),
      (entries.flatMap Prod.snd).filter HttpRequest.isPatch = changes.map Prod.snd ∧
        (changes.map Prod.fst).Sublist (attempts (entries.map Prod.fst)) ∧
          ∀ change ∈ changes, Change dryRun catalog? change.1 change.2 := by
  have none {sent : List HttpRequest} (all : ∀ r ∈ sent, r.method = "GET") :
      sent.filter HttpRequest.isPatch = [] := by
    simp only [List.filter_eq_nil_iff]
    exact fun r member => by simp [HttpRequest.isPatch_of_get (all r member)]
  induction entries with
  | nil => exact ⟨[], rfl, .slnil, nofun⟩
  | cons entry rest ih =>
    obtain ⟨first, later⟩ := List.forall_mem_cons.mp lawful
    obtain ⟨changes, patches, part, all⟩ := ih later
    obtain ⟨event, sent⟩ := entry
    rw [List.flatMap_cons, List.filter_append, patches]
    cases first with
    | reads gets =>
      refine ⟨changes, by rw [none gets, List.nil_append], part.trans ?_, all⟩
      exact (List.sublist_cons_self _ _).filterMap _
    | @changes h result reads change gets isChange =>
      refine ⟨(h, change) :: changes, ?_, part.cons_cons h, List.forall_mem_cons.mpr ⟨isChange, all⟩⟩
      have patch : [change].filter HttpRequest.isPatch = [change] := by
        simp [HttpRequest.isPatch_of_patch isChange.method]
      have whole : (reads ++ [change]).filter HttpRequest.isPatch = [change] := by
        rw [List.filter_append, none gets, patch, List.nil_append]
      exact congrArg (· ++ changes.map Prod.snd) whole

section Calls

variable {server : Server σ} {console : Console σ} {format : OutputFormat} {o : Options}
  {past : List Event} {given : List Handle} {s t : Session σ} {trace : List Event}
  {offered : List Handle}

/-- What is known of the server stays known, and every object that is offered belongs to it. -/
theorem served_of_calls
    (calls : Calls (server.collaborators console.write format o.dryRun) o past given s trace offered t)
    (before : ∀ h ∈ given, ∃ c, s.catalog? = some c ∧ Served c h) :
    (∀ c, s.catalog? = some c → t.catalog? = some c) ∧
      ∀ h ∈ offered, ∃ c, t.catalog? = some c ∧ Served c h := by
  have kept {offered : List Handle} {t u : Session σ}
      (known : ∀ c, t.catalog? = some c → u.catalog? = some c)
      (served : ∀ h ∈ offered, ∃ c, t.catalog? = some c ∧ Served c h) :
      ∀ h ∈ offered, ∃ c, u.catalog? = some c ∧ Served c h := by
    intro h member
    obtain ⟨c, found, served⟩ := served h member
    exact ⟨c, known c found, served⟩
  induction calls with
  | start => exact ⟨fun c known => known, before⟩
  | @resolve _ offered w _ request ih =>
    have later := (server.onlyReads_resolve request w).known
    refine ⟨fun c known => later c (ih.1 c known), fun h member => ?_⟩
    rcases List.mem_append.mp member with earlier | here
    · exact kept later ih.2 h earlier
    · replace here : h ∈ offers (server.resolve request w).1 := here
      show ∃ c, (server.resolve request w).2.catalog? = some c ∧ Served c h
      rcases answered : server.resolve request w with ⟨failure | items, u⟩
      · simp [answered, offers] at here
      · rw [answered] at here
        exact server.served_of_resolve answered here
  | verify _ mode answered ih =>
    have later := (reads_verify answered).known
    exact ⟨fun c known => later c (ih.1 c known), kept later ih.2⟩
  | rollback _ member found checked answered ih =>
    have later (c : Catalog) := known_of_strategy (c := c) found answered
    exact ⟨fun c known => later c (ih.1 c known), kept later ih.2⟩
  | print _ answered ih =>
    have later := (reads_print answered).known
    exact ⟨fun c known => later c (ih.1 c known), kept later ih.2⟩

end Calls

section Runs

variable {server : Server σ} {console : Console σ} {format : OutputFormat} {o : Options}
  {request : Request} {s : Session σ}

theorem accepts_hasHistory {server : Server σ} {g : Gvk}
    (accepts : (server.strategies.find? g.group g.kind).isSome) : g.HasHistory := by
  obtain ⟨strategy, found⟩ := Option.isSome_iff_exists.mp accepts
  obtain ⟨p, registered, -⟩ := server.procedure_of_find? found
  exact Gvk.hasHistory_of_mem registered

/-- Workloads that were found in the first phase are not tried twice if the server answers for them
truthfully. -/
theorem nodup_attempts_of_truthful {p : Progress (Session σ)} (reserved : Reserved p)
    (serves : ∀ c, (afterBoth (server.collaborators console.write format o.dryRun) o request
      p).world.catalog? = some c → c.Regular ∧ server.Truthful c)
    (pointers : ∀ ref ∈ p.report.discovered, ArePathParts ref.ns? ref.name ∧ ref.ns?.isSome) :
    ((attempts (afterBoth (server.collaborators console.write format o.dryRun) o request
      p).trace).map Handle.identity).Nodup := by
  have waiting := (List.nodup_append.mp reserved.distinct).2.1
  refine reserved.nodup_attempts fun items answer => ?_
  cases none : p.report.discovered.isEmpty with
  | true =>
    simp only [followUpAnswer, none, if_true] at answer
    cases answer
    exact ⟨fun h member => absurd member List.not_mem_nil, List.nodup_nil⟩
  | false =>
    obtain ⟨past, w, asked, calls⟩ := calls_of_followUp (o := o) none answer
    replace asked : server.resolve (request.followUp p.report.discovered) p.world = (.ok items, w) :=
      asked
    obtain ⟨c, known, identities⟩ := Server.identities_of_followUp
      (fun g => (server.strategies.find? g.group g.kind).isSome) asked
    have offered (h : Handle) (member : h ∈ handles items) : ∃ c, w.catalog? = some c ∧ Served c h :=
      server.served_of_resolve asked member
    obtain ⟨regular, truthful⟩ := serves c ((served_of_calls calls offered).1 c known)
    have part := identities truthful
      (fun r listed accepts => regular.placed r listed (.inr (accepts_hasHistory accepts))) pointers
    refine ⟨fun h member => ?_, waiting.sublist part⟩
    obtain ⟨ref, found, same⟩ := List.mem_map.mp (part.subset (List.mem_map_of_mem member))
    exact ⟨ref, found, same.symm⟩

/-- No workload is tried twice in a run in which the server answers truthfully. -/
theorem nodup_attempts_of_undo
    (serves : ∀ c, (server.undo console.write format o request s).world.catalog? = some c →
      c.Regular ∧ server.Truthful c)
    (pointers : ∀ report, (server.undo console.write format o request s).result = .ok report →
      ∀ ref ∈ report.discovered, ArePathParts ref.ns? ref.name) :
    ((attempts (server.undo console.write format o request s).trace).map Handle.identity).Nodup := by
  unfold Server.undo at serves pointers ⊢
  cases answered : ((server.collaborators console.write format o.dryRun).resolve request s).1 with
  | error failure =>
    rw [run_of_unanswered answered]
    exact List.nodup_nil
  | ok items =>
    rw [run_of_answered answered] at serves pointers ⊢
    have reserved := reserved_afterDirect (server.collaborators console.write format o.dryRun) o
      request s items
    have calls := reached_afterBoth request (reached_afterDirect (o := o) answered)
    have discovered (ref : WorkloadRef) (found : ref ∈ (afterDirect
        (server.collaborators console.write format o.dryRun) o request s items).report.discovered) :
        ∃ h ∈ handles items, classify h = .ok (.pointer ref) := pointer_of_discovered found
    refine nodup_attempts_of_truthful reserved serves fun ref found => ?_
    obtain ⟨h, member, classified⟩ := discovered ref found
    obtain ⟨pointer, space⟩ := pointer_of_classify classified
    obtain ⟨c, known, served⟩ :=
      (served_of_calls calls (List.forall_mem_nil _)).2 h (List.mem_append_left _ member)
    refine ⟨pointers _ rfl ref (by rw [discovered_afterBoth]; exact found), ?_⟩
    rw [space]
    exact served.placed (serves c known).1 (.inl pointer)

/-- A change of a workload with plain parts goes to the path of its type, namespace and name. -/
theorem Change.place {dryRun : DryRun} {catalog? : Option Catalog} {c : Catalog} {h : Handle}
    {r : HttpRequest} (change : Change dryRun catalog? h r) (served : Served c h)
    (regular : c.Regular) (plain : ArePathParts h.ns? h.name) :
    h.gvk.HasHistory ∧ IsPathPart h.gvk.version ∧ ∃ ns, h.ns? = some ns ∧ IsPathPart ns ∧
      r.location.path = workloadPath h.gvk ns h.name := by
  obtain ⟨p, path, registered, found, -, -, whole⟩ := change.path
  have history := Gvk.hasHistory_of_mem registered
  obtain ⟨ns, space, rfl⟩ := served.path_eq regular registered found
  have version : IsPathPart h.gvk.version := by
    obtain @⟨r, o, document, ns?, listed, given, placed⟩ := served
    exact (regular.version r listed).2
  obtain ⟨uncut, unasked⟩ :=
    pathPart_workloadPath (addressable_of_hasHistory history version) (plain.2 ns space) plain.1
  exact ⟨history, version, ns, space, plain.2 ns space, whole uncut unasked⟩

/-- No place is changed twice in a run, if the catalog is regular, the server answers truthfully, and
names and namespaces may stand in a path. -/
theorem Server.undo_changes_once (server : Server σ) (console : Console σ) (format : OutputFormat)
    (o : Options) (request : Request) (world : σ) (catalog? : Option Catalog)
    (manifests : Manifest.Source) :
    let ended := server.undo console.write format o request (.start world catalog? manifests)
    (∀ c, ended.world.catalog? = some c → c.Regular ∧ server.Truthful c) →
    (∀ h ∈ attempts ended.trace, ArePathParts h.ns? h.name) →
    (∀ report, ended.result = .ok report →
      ∀ ref ∈ report.discovered, ArePathParts ref.ns? ref.name) →
    ((ended.world.requests.filter HttpRequest.isPatch).map fun r => r.location.path).Nodup := by
  intro ended serves plain pointers
  have distinct : ((attempts ended.trace).map Handle.identity).Nodup :=
    nodup_attempts_of_undo serves pointers
  obtain ⟨offered, calls⟩ := run_calls (server.collaborators console.write format o.dryRun) o request
    (Session.start world catalog? manifests)
  obtain ⟨⟨entries, journal⟩, -⟩ := journal_of_calls calls
  obtain ⟨changes, patches, part, lawful⟩ := changes_of_lawful journal.lawful
  rw [journal.events] at part
  have places (change : Handle × HttpRequest) (member : change ∈ changes) :
      change.1.gvk.HasHistory ∧ IsPathPart change.1.gvk.version ∧
        ∃ ns, change.1.ns? = some ns ∧ IsPathPart ns ∧
          change.2.location.path = workloadPath change.1.gvk ns change.1.name := by
    have tried : change.1 ∈ attempts ended.trace := part.subset (List.mem_map_of_mem member)
    have offer : change.1 ∈ offered := calls.attempts_subset (List.nil_subset _) tried
    obtain ⟨c, known, served⟩ := (served_of_calls calls (List.forall_mem_nil _)).2 _ offer
    exact (lawful change member).place served (serves c known).1 (plain _ tried)
  have requests : ended.world.requests = entries.flatMap Prod.snd := journal.requests
  rw [requests, patches, List.map_map]
  -- Two changes at one path are of one workload, and each workload is tried only once.
  have identities : (changes.map fun change => change.1.identity).Nodup := by
    simpa [Function.comp_def] using distinct.sublist (part.map Handle.identity)
  refine identities.of_map.map_on fun first here second there same => ?_
  refine List.inj_on_of_nodup_map identities here there ?_
  obtain ⟨history, version, ns, space, plainSpace, path⟩ := places first here
  obtain ⟨history', version', ns', space', plainSpace', path'⟩ := places second there
  obtain ⟨type, sameSpace, name⟩ := workloadPath_inj history history' version version'
    plainSpace plainSpace' (path.symm.trans (same.trans path'))
  simp only [Handle.identity, type, name, space, space', sameSpace]

end Runs

namespace Daemons

def rollouts : Resource :=
  ⟨"rollouts.kruise.io", "v1beta1", "Rollout", "rollouts", "rollouts.kruise.io/v1beta1", true, true,
    ["get", "list"]⟩

def daemonPage : String × String := ("/apis/apps/v1/namespaces/ns/daemonsets/d", daemonSet "d")

/-- A list of one object that points at a daemon set. -/
def rolloutsPage (target : String) : String × String :=
  ("/apis/rollouts.kruise.io/v1beta1/namespaces/ns/rollouts",
    "\x7b\"metadata\":\x7b\x7d,\"items\":[\x7b\"spec\":\x7b\"workloadRef\":\x7b"
      ++ "\"apiVersion\":\"apps/v1\",\"kind\":\"DaemonSet\",\"name\":\"" ++ target
      ++ "\"\x7d\x7d\x7d]\x7d")

def pages (target : String) : List (String × String) :=
  [rolloutsPage target, daemonPage, revisionsPage]

/-- All objects that point at daemon sets, and the daemon set `d`. -/
def pointers : List Argument := [.typed "rollout" none, .typed "daemonset" (some "d")]

/-- The end of a run for them. -/
def pointed (target : String) : Ended (Session Unit) :=
  ended (pages target) [resource, rollouts] pointers .none

def changed (e : Ended (Session Unit)) : List String :=
  (e.world.requests.filter HttpRequest.isPatch).map fun r => r.location.path

/-- A deployment that is served under a version that is not that of its path. -/
def deployments (version : String) : Resource :=
  ⟨"apps", version, "Deployment", "deployments", "apps/v1", true, true, ["get", "list", "patch"]⟩

def replicaSets : String :=
  "\x7b\"metadata\":\x7b\x7d,\"items\":[\x7b\"metadata\":\x7b\"annotations\":\x7b"
    ++ "\"deployment.kubernetes.io/revision\":\"1\"\x7d,"
    ++ "\"ownerReferences\":[\x7b\"controller\":true\x7d]\x7d,"
    ++ "\"spec\":\x7b\"template\":\x7b\"spec\":\x7b\x7d\x7d\x7d\x7d]\x7d"

def versioned : Ended (Session Unit) :=
  ended [("/apis/apps/v1/namespaces/ns/deployments/d", daemonSet "d"),
      ("/apis/apps/v1/namespaces/ns/replicasets", replicaSets)]
    [deployments "v1", deployments "v1beta1"]
    [.typed "deployments.v1.apps" (some "d"), .typed "deployments.v1beta1.apps" (some "d")] .none

theorem workloadPath_of_listed {r : Resource} (listed : r ∈ [resource, rollouts]) (ns name : String) :
    resourcePath r.group r.apiVersion r.plural (some ns) ++ "/" ++ name = workloadPath r.gvk ns name ∧
      r.gvk.Addressable := by
  simp only [List.mem_cons, List.not_mem_nil, or_false] at listed
  rcases listed with rfl | rfl
  · exact ⟨rfl, by decide +kernel, by decide +kernel, by decide +kernel, by decide +kernel⟩
  · exact ⟨rfl, by decide +kernel, by decide +kernel, by decide +kernel, by decide +kernel⟩

/-- The path of an object in a namespace has more slashes than that of a list. -/
theorem slashes_of_workloadPath {g : Gvk} (grouped : g.group ≠ "") (ns name : String) :
    7 ≤ (workloadPath g ns name).toList.count '/' := by
  have root : "/apis/".toList.count '/' = 2 := by decide
  rw [toList_workloadPath grouped]
  simp only [List.count_append, List.count_cons_self, root]
  omega

/-- What is fetched was read from the page at the place of the request. -/
theorem page_of_fetch {α : Type} {pages : List (String × String)} {what : String}
    {request? : Option HttpRequest} {read? : Json → Option α} {s : Session Unit} {v : α}
    (answer : (((server pages).fetch what request? read?).run s).1 = .ok v) :
    ∃ r page text document, request? = some r ∧ lookup r.location.path pages = some page ∧
      replyText 200 (octets page) = .ok text ∧ Json.ofText? text = some document ∧
        read? document = some v := by
  obtain ⟨r, status, body, text, document, asked, reply, decoded, given, read⟩ :=
    Server.answer_of_fetch _ (Prod.ext answer rfl)
  refine ⟨r, ?_⟩
  by_cases patch : r.isPatch = true
  · simp only [server, patch, if_true] at reply
    cases reply
  · simp only [server, patch] at reply
    cases found : lookup r.location.path pages with
    | none =>
      rw [found] at reply
      cases reply
      cases decoded
    | some page =>
      rw [found] at reply
      cases reply
      exact ⟨page, text, document, asked, rfl, decoded, given, read⟩

theorem truthful (target : String) :
    (server (pages target)).Truthful ⟨[resource, rollouts]⟩ := by
  intro r listed _ ns name what s o space part answer
  obtain ⟨path, type⟩ := workloadPath_of_listed listed ns name
  obtain ⟨uncut, unasked⟩ := pathPart_workloadPath type space part
  have slashes := slashes_of_workloadPath type.grouped ns name
  rw [path] at answer
  obtain ⟨request, page, text, document, asked, found, decoded, given, read⟩ := page_of_fetch answer
  obtain ⟨location, located, rfl⟩ := Option.map_eq_some_iff.mp asked
  obtain rfl := whole_of_read located uncut unasked
  have member := mem_of_lookup found
  simp only [pages, List.mem_cons, List.not_mem_nil, or_false, Prod.mk.injEq, rolloutsPage, daemonPage,
    revisionsPage] at member
  rcases member with ⟨same, -⟩ | ⟨same, rfl⟩ | ⟨same, -⟩
  · exact absurd (same ▸ slashes) (by decide)
  · have place : workloadPath r.gvk ns name = workloadPath resource.gvk "ns" "d" := same
    obtain ⟨group, -, rfl, -, rfl⟩ := parts_of_workloadPath type
      (workloadPath_of_listed List.mem_cons_self "ns" "d").2 space (by decide) place
    obtain rfl : r = resource := by
      simp only [List.mem_cons, List.not_mem_nil, or_false] at listed
      rcases listed with rfl | rfl
      · rfl
      · exact absurd group (by decide)
    have names : ((replyText 200 (octets (daemonSet "d"))).toOption.bind fun text =>
        (Json.ofText? text).bind LiveObject.ofJson?).map (fun o =>
          ((o.toHandle resource (some "ns")).name, (o.toHandle resource (some "ns")).ns?)) =
          some ("d", some "ns") := by
      decide +kernel
    rw [decoded] at names
    simpa [given, read] using names
  · exact absurd (same ▸ slashes) (by decide)

end Daemons

theorem undo_changes_once_pointed :
    Daemons.changed (Daemons.pointed "d") = [Daemons.daemonPage.1] ∧
      (Daemons.changed (Daemons.pointed "d")).Nodup := by
  have facts : (Daemons.pointed "d").world.catalog? = some ⟨[Daemons.resource, Daemons.rollouts]⟩ ∧
      (attempts (Daemons.pointed "d").trace).map (fun h => (h.ns?, h.name)) = [(some "ns", "d")] ∧
      (Daemons.pointed "d").result.toOption.map (fun report =>
        report.discovered.map fun ref => (ref.ns?, ref.name)) = some [(some "ns", "d")] ∧
      Daemons.changed (Daemons.pointed "d") = [Daemons.daemonPage.1] := by decide +kernel
  obtain ⟨known, tried, found, changed⟩ := facts
  have plain : ArePathParts (some "ns") "d" := ⟨by decide, fun ns same => by cases same; decide⟩
  have serves (c : Catalog) (same : (Daemons.pointed "d").world.catalog? = some c) :
      c.Regular ∧ (Daemons.server (Daemons.pages "d")).Truthful c := by
    obtain rfl : _ = c := Option.some.inj (known.symm.trans same)
    have namespaced : ∀ r ∈ [Daemons.resource, Daemons.rollouts], r.namespaced = true := by decide
    exact ⟨⟨by decide +kernel, fun r listed _ => namespaced r listed⟩, Daemons.truthful "d"⟩
  have objects (h : Handle) (member : h ∈ attempts (Daemons.pointed "d").trace) :
      ArePathParts h.ns? h.name := by
    have named := List.mem_map_of_mem (f := fun h : Handle => (h.ns?, h.name)) member
    rw [tried] at named
    obtain ⟨space, name⟩ := Prod.mk.inj (List.mem_singleton.mp named)
    rw [space, name]
    exact plain
  have references (report : Report) (ended : (Daemons.pointed "d").result = .ok report)
      (ref : WorkloadRef) (member : ref ∈ report.discovered) : ArePathParts ref.ns? ref.name := by
    have named := List.mem_map_of_mem (f := fun ref : WorkloadRef => (ref.ns?, ref.name)) member
    rw [ended] at found
    replace found : report.discovered.map (fun ref => (ref.ns?, ref.name)) = [(some "ns", "d")] :=
      Option.some.inj found
    rw [found] at named
    obtain ⟨space, name⟩ := Prod.mk.inj (List.mem_singleton.mp named)
    rw [space, name]
    exact plain
  have once := Server.undo_changes_once (Daemons.server (Daemons.pages "d")) Console.session .name
    ⟨.exact 1, .none⟩ (Daemons.request Daemons.pointers) ()
    (some ⟨[Daemons.resource, Daemons.rollouts]⟩) (.ofTree .empty [] [])
  have run : Daemons.pointed "d" = (Daemons.server (Daemons.pages "d")).undo Console.session.write
    .name ⟨.exact 1, .none⟩ (Daemons.request Daemons.pointers)
    (.start () (some ⟨[Daemons.resource, Daemons.rollouts]⟩) (.ofTree .empty [] [])) := rfl
  dsimp only at once
  rw [← run] at once
  exact ⟨changed, once serves objects references⟩

/-- Without its conditions a workload can be changed twice: when a hash sign cuts off the name that a
pointer gives, and when a resource is served under the version of another. -/
theorem changes_repeated :
    ¬ (Daemons.changed (Daemons.pointed "d#")).Nodup ∧ ¬ (Daemons.changed Daemons.versioned).Nodup := by
  have paths : Daemons.changed (Daemons.pointed "d#") = [Daemons.daemonPage.1, Daemons.daemonPage.1] ∧
      Daemons.changed Daemons.versioned = ["/apis/apps/v1/namespaces/ns/deployments/d",
        "/apis/apps/v1/namespaces/ns/deployments/d"] := by
    decide +kernel
  rw [paths.1, paths.2]
  decide

end Rollback
