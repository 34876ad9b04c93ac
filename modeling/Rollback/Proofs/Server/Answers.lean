import Rollback.Proofs.Api.Schema
import Rollback.Proofs.Catalog.Lookup
import Rollback.Proofs.Engine.Visits
import Rollback.Proofs.Server.Location
import Rollback.Proofs.Server.Objects
import Rollback.Proofs.Server.Sends

/-! What a source answers: every object was read as one of a resource that the server is known to serve,
and the objects of a request for found workloads answer its references in order. -/
namespace Rollback

variable {σ : Type} {c : Catalog} {r : Resource} {h : Handle} {ref : WorkloadRef}

/-- An object that was read as one of a known resource, in a namespace if the resource has them. -/
inductive Served (c : Catalog) : Handle → Prop where
  | read {r : Resource} {o : LiveObject} {document : Json} {ns? : Option String}
      (listed : r ∈ c.entries) (given : LiveObject.ofJson? document = some o)
      (placed : r.namespaced = true → ns?.isSome) : Served c (o.toHandle r ns?)

namespace PlannedTarget

/-- A target of a known resource, in a namespace if the resource has them. -/
structure Known (c : Catalog) (t : PlannedTarget) : Prop where
  listed : t.resource ∈ c.entries
  placed : t.resource.namespaced = true → t.ns?.isSome

end PlannedTarget

namespace Plan

theorem known_targetOf (listed : r ∈ c.entries) (ns : String) (name? : Option String) :
    (targetOf r ns name?).Known c :=
  ⟨listed, fun namespaced => by simp only [targetOf] at *; simp [namespaced]⟩

theorem known_of_argument {ns : String} {arg : Argument} {t : PlannedTarget}
    (planned : ofArgument c ns arg = .ok (.ok t)) : t.Known c := by
  cases arg with
  | typed resource name? =>
    cases found : c.resolve resource with
    | error fault => simp [ofArgument, found] at planned
    | ok r =>
      simp only [ofArgument, found] at planned
      cases planned
      exact known_targetOf (Catalog.mem_of_resolve found) _ _
  | workload ref =>
    cases found : c.find? ref.gvk with
    | none => simp [ofArgument, found] at planned
    | some r =>
      simp only [ofArgument, found] at planned
      cases planned
      exact known_targetOf (Catalog.mem_of_find? found).1 _ _

theorem known_of_reference {request : Request} {m : Reference} {t : PlannedTarget}
    (planned : ofReference c request m = .ok (.ok t)) : t.Known c := by
  unfold ofReference at planned
  split at planned
  · cases planned
  · split at planned
    · next r found =>
      cases planned
      exact known_targetOf (Catalog.mem_of_find? found).1 _ _
    · cases planned

/-- A request is planned when it asks for something and each of its parts can be planned. -/
theorem ofRequest_eq_ok {request : Request} {manifests : List Reference}
    {planned : List (Except Failure PlannedTarget)} : ofRequest c request manifests = .ok planned ↔
      request.isEmpty = false ∧ ∃ args files,
        request.args.mapM (ofArgument c request.ns) = .ok args ∧
          manifests.mapM (ofReference c request) = .ok files ∧ args ++ files = planned := by
  unfold ofRequest
  cases request.isEmpty with
  | true => simp [throw, throwThe, MonadExceptOf.throw]
  | false =>
    cases request.args.mapM (ofArgument c request.ns) with
    | error failure => simp
    | ok args =>
      cases manifests.mapM (ofReference c request) with
      | error failure => simp
      | ok files => simp

/-- Every target of a request is that of one of its arguments or manifests. -/
theorem origin_of_request {request : Request} {manifests : List Reference}
    {planned : List (Except Failure PlannedTarget)} (made : ofRequest c request manifests = .ok planned)
    {t : PlannedTarget} (member : .ok t ∈ planned) :
    (∃ arg ∈ request.args, ofArgument c request.ns arg = .ok (.ok t)) ∨
      ∃ m ∈ manifests, ofReference c request m = .ok (.ok t) := by
  obtain ⟨-, args, files, first, second, rfl⟩ := ofRequest_eq_ok.mp made
  rcases List.mem_append.mp member with named | read
  · exact .inl (Traversal.mem_of_mapM first named)
  · exact .inr (Traversal.mem_of_mapM second read)

/-- Everything that a request asks for belongs to a known resource. -/
theorem known_of_request {request : Request} {manifests : List Reference}
    {planned : List (Except Failure PlannedTarget)} (made : ofRequest c request manifests = .ok planned)
    {t : PlannedTarget} (member : .ok t ∈ planned) : t.Known c := by
  obtain ⟨arg, -, named⟩ | ⟨m, -, read⟩ := origin_of_request made member
  · exact known_of_argument named
  · exact known_of_reference read

/-- The target of a found workload, or the failure that its type is not served. -/
def ofWorkload (c : Catalog) (ns : String) (ref : WorkloadRef) : Except Failure PlannedTarget :=
  match c.find? ref.gvk with
  | some r => .ok (targetOf r (ref.ns?.getD ns) (some ref.name))
  | none => .error (.fetch ref.qualifiedName (CatalogFault.notServed ref.gvk).cause)

theorem mapM_workloads (c : Catalog) (ns : String) (refs : List WorkloadRef) :
    (refs.map Argument.workload).mapM (ofArgument c ns) = .ok (refs.map (ofWorkload c ns)) := by
  induction refs with
  | nil => rfl
  | cons ref rest ih =>
    have first : ofArgument c ns (.workload ref) = .ok (ofWorkload c ns ref) := by
      cases found : c.find? ref.gvk <;> simp only [ofArgument, ofWorkload, found]
    rw [List.map_cons, List.mapM_cons, first, ih]
    rfl

/-- The plan for found workloads has one target for each reference, in order. -/
theorem planned_of_followUp {request : Request} {refs : List WorkloadRef}
    {planned : List (Except Failure PlannedTarget)}
    (made : ofRequest c (request.followUp refs) [] = .ok planned) :
    planned = refs.map (ofWorkload c request.ns) := by
  obtain ⟨-, args, files, first, second, rfl⟩ := ofRequest_eq_ok.mp made
  cases second
  cases (mapM_workloads c request.ns refs).symm.trans first
  exact List.append_nil _

end Plan

namespace Server

variable (server : Server σ)

theorem fetchTarget_one {t : PlannedTarget} {name : String} (one : t.name? = some name)
    (s : Session σ) :
    (fetchTarget server t s).1 =
      match ((server.fetch ("get " ++ t.label) (HttpRequest.getAt (t.path ++ "/" ++ name))
        LiveObject.ofJson?).run s).1 with
      | .ok o => [.ok (o.toHandle t.resource t.ns?)]
      | .error cause => [.error (.fetch t.label cause)] := by
  unfold fetchTarget
  simp only [one]
  rw [bind_apply]
  generalize (server.fetch ("get " ++ t.label) (HttpRequest.getAt (t.path ++ "/" ++ name))
    LiveObject.ofJson?).run s = fetched
  rcases fetched with ⟨cause | o, u⟩ <;> rfl

theorem fetchTarget_all {t : PlannedTarget} (all : t.name? = none) (s : Session σ) :
    (fetchTarget server t s).1 =
      match ((server.fetch ("list " ++ t.label) (HttpRequest.listAt t.path none)
        (Api.readList LiveObject.ofJson?)).run s).1 with
      | .ok objects => objects.map fun o => .ok (o.toHandle t.resource t.ns?)
      | .error cause => [.error (.fetch t.label cause)] := by
  unfold fetchTarget
  simp only [all]
  rw [bind_apply]
  generalize (server.fetch ("list " ++ t.label) (HttpRequest.listAt t.path none)
    (Api.readList LiveObject.ofJson?)).run s = fetched
  rcases fetched with ⟨cause | o, u⟩ <;> rfl

theorem fetchTarget_session {t : PlannedTarget} (s : Session σ) :
    (fetchTarget server t s).2 =
      match t.name? with
      | some name => ((server.fetch ("get " ++ t.label) (HttpRequest.getAt (t.path ++ "/" ++ name))
          LiveObject.ofJson?).run s).2
      | none => ((server.fetch ("list " ++ t.label) (HttpRequest.listAt t.path none)
          (Api.readList LiveObject.ofJson?)).run s).2 := by
  unfold fetchTarget
  cases t.name? with
  | some name =>
    dsimp only
    rw [bind_apply]
    generalize (server.fetch ("get " ++ t.label) (HttpRequest.getAt (t.path ++ "/" ++ name))
      LiveObject.ofJson?).run s = fetched
    rcases fetched with ⟨cause | o, u⟩ <;> rfl
  | none =>
    dsimp only
    rw [bind_apply]
    generalize (server.fetch ("list " ++ t.label) (HttpRequest.listAt t.path none)
      (Api.readList LiveObject.ofJson?)).run s = fetched
    rcases fetched with ⟨cause | objects, u⟩ <;> rfl

/-- What is fetched for a target was read as one of its resource, with one request. -/
theorem read_of_fetchTarget {t : PlannedTarget} {s : Session σ}
    (member : .ok h ∈ (fetchTarget server t s).1) :
    ∃ o document r, LiveObject.ofJson? document = some o ∧ h = o.toHandle t.resource t.ns? ∧
      HttpRequest.Reads r ∧ (fetchTarget server t s).2.requests = s.requests ++ [r] := by
  rw [server.fetchTarget_session]
  cases named : t.name? with
  | some name =>
    rw [server.fetchTarget_one named] at member
    dsimp only
    split at member
    · next o fetched =>
      obtain ⟨r, _, _, _, document, asked, _, _, _, given⟩ :=
        server.answer_of_fetch (Prod.ext fetched rfl)
      have same : h = o.toHandle t.resource t.ns? := by simpa using member
      refine ⟨o, document, r, given, same, HttpRequest.reads_of_getAt asked, ?_⟩
      rw [server.fetch_requests, asked]
      rfl
    · simp at member
  | none =>
    rw [server.fetchTarget_all named] at member
    dsimp only
    split at member
    · next objects fetched =>
      obtain ⟨r, _, _, _, _, asked, _, _, _, given⟩ :=
        server.answer_of_fetch (Prod.ext fetched rfl)
      obtain ⟨o, listed, rfl⟩ : ∃ o ∈ objects, o.toHandle t.resource t.ns? = h := by
        simpa using member
      obtain ⟨_, item, _, _, source⟩ := Api.source_of_readList given listed
      refine ⟨o, item, r, source, rfl, HttpRequest.reads_of_listAt asked, ?_⟩
      rw [server.fetch_requests, asked]
      rfl
    · simp at member

theorem handle_of_fetchTarget {t : PlannedTarget} {s : Session σ}
    (member : .ok h ∈ (fetchTarget server t s).1) :
    ∃ o document, LiveObject.ofJson? document = some o ∧ h = o.toHandle t.resource t.ns? := by
  obtain ⟨o, document, _, given, same, -⟩ := server.read_of_fetchTarget member
  exact ⟨o, document, given, same⟩

theorem served_of_fetchTarget {t : PlannedTarget} (known : t.Known c) {s : Session σ}
    (member : .ok h ∈ (fetchTarget server t s).1) : Served c h := by
  obtain ⟨o, document, given, rfl⟩ := server.handle_of_fetchTarget member
  exact .read known.listed given known.placed

/-- Every object of an answer was fetched for one target, after the targets before it and before those
after it. -/
theorem split_of_handles {planned : List (Except Failure PlannedTarget)} {u : Session σ}
    (member : h ∈ handles (planned.mapM (fetchPlanned server) u).1.flatten) :
    ∃ earlier t later v, planned = earlier ++ .ok t :: later ∧
      (earlier.mapM (fetchPlanned server) u).2 = v ∧ .ok h ∈ (fetchTarget server t v).1 ∧
        (planned.mapM (fetchPlanned server) u).2 =
          (later.mapM (fetchPlanned server) (fetchTarget server t v).2).2 := by
  obtain ⟨item, inside, read⟩ := List.mem_filterMap.mp member
  obtain ⟨piece, fetched, inside⟩ := List.mem_flatten.mp inside
  obtain ⟨earlier, target, later, rfl, rfl, ends⟩ := split_of_mapM_apply fetched
  cases item with
  | error failure => cases read
  | ok found =>
    obtain rfl := Option.some.inj read
    cases target with
    | error failure =>
      replace inside : .ok found ∈ [Except.error failure] := inside
      simp at inside
    | ok t => exact ⟨earlier, t, later, _, rfl, rfl, inside, ends⟩

theorem target_of_handles {planned : List (Except Failure PlannedTarget)} {u : Session σ}
    (member : h ∈ handles (planned.mapM (fetchPlanned server) u).1.flatten) :
    ∃ t v, .ok t ∈ planned ∧ .ok h ∈ (fetchTarget server t v).1 := by
  obtain ⟨earlier, t, later, v, rfl, -, read, -⟩ := server.split_of_handles member
  exact ⟨t, v, List.mem_append_right _ List.mem_cons_self, read⟩

/-- The session has found out what the server serves, unless it had no need to. -/
inductive Learned (server : Server σ) (s : Session σ) : Session σ → Prop where
  | told {u : Session σ} (requests : u.requests = s.requests) (known : u.catalog? = s.catalog?) :
      Learned server s u
  | asked {v u : Session σ} (unknown : s.catalog? = none) (world : v.world = s.world)
      (requests : v.requests = s.requests)
      (sent : u.requests = ((Discovery.run server).run v).2.requests) : Learned server s u

/-- What a request asks for once its manifests have been read and it is known what the server
serves. -/
structure Plans (server : Server σ) (request : Request) (s : Session σ) (c : Catalog)
    (refs : List Reference) (planned : List (Except Failure PlannedTarget)) (u : Session σ) :
    Prop where
  opened : ∃ v, loadManifests server request s = (.ok refs, v) ∧
    (catalog server).run v = (.ok c, u)
  made : Plan.ofRequest c request refs = .ok planned

/-- Manifests are read without the server. -/
theorem loadManifests_run (request : Request) (s : Session σ) :
    (∃ fault, Manifest.load server.settings.manifestLimit request.recursive s.manifests
          request.filenames = .error fault ∧
        loadManifests server request s = (.error fault, s)) ∨
      ∃ refs left, Manifest.load server.settings.manifestLimit request.recursive s.manifests
          request.filenames = .ok (refs, left) ∧
        loadManifests server request s = (.ok refs, { s with manifests := left }) := by
  unfold loadManifests
  dsimp only
  cases loaded : Manifest.load server.settings.manifestLimit request.recursive s.manifests
    request.filenames with
  | error fault => exact .inl ⟨fault, rfl, rfl⟩
  | ok answer =>
    obtain ⟨refs, left⟩ := answer
    exact .inr ⟨refs, left, rfl, rfl⟩

theorem learned_of_catalog {s v : Session σ} (world : v.world = s.world)
    (requests : v.requests = s.requests) (known : v.catalog? = s.catalog?) :
    server.Learned s ((catalog server).run v).2 := by
  cases held : v.catalog? with
  | some c =>
    rw [server.catalog_of_known held]
    exact .told requests known
  | none =>
    refine .asked (known.symm.trans held) world requests ?_
    rw [server.catalog_of_unknown held]
    rcases (Discovery.run server).run v with ⟨cause | c, t⟩ <;> rfl

theorem Learned.known {server : Server σ} {s u : Session σ} (learned : server.Learned s u)
    (known : s.catalog? = some c) : u.catalog? = some c := by
  cases learned with
  | told requests same => exact same.trans known
  | asked unknown =>
    rw [unknown] at known
    cases known

section Plans

variable {server} {request : Request} {s u : Session σ} {refs : List Reference}
  {planned : List (Except Failure PlannedTarget)}

theorem Plans.known (plans : server.Plans request s c refs planned u) : u.catalog? = some c := by
  obtain ⟨v, -, known⟩ := plans.opened
  exact server.catalog_known known

theorem Plans.loaded (plans : server.Plans request s c refs planned u) :
    ∃ left, Manifest.load server.settings.manifestLimit request.recursive s.manifests
      request.filenames = .ok (refs, left) := by
  obtain ⟨v, loaded, -⟩ := plans.opened
  obtain ⟨fault, -, failed⟩ | ⟨refs', left, read, done⟩ := server.loadManifests_run request s
  · rw [failed] at loaded
    cases loaded
  · rw [done] at loaded
    cases loaded
    exact ⟨left, read⟩

theorem Plans.nil_of_without (plans : server.Plans request s c refs planned u)
    (without : request.filenames = []) : refs = [] := by
  obtain ⟨left, loaded⟩ := plans.loaded
  rw [without] at loaded
  cases loaded
  rfl

theorem Plans.learned (plans : server.Plans request s c refs planned u) : server.Learned s u := by
  obtain ⟨v, loaded, known⟩ := plans.opened
  obtain ⟨fault, -, failed⟩ | ⟨refs', left, read, done⟩ := server.loadManifests_run request s
  · rw [failed] at loaded
    cases loaded
  · rw [done] at loaded
    cases loaded
    rw [show u = ((catalog server).run { s with manifests := left }).2 by rw [known]]
    exact server.learned_of_catalog rfl rfl rfl

/-- A request that can be planned is answered: every target is fetched, in order. -/
theorem Plans.resolve_eq (plans : server.Plans request s c refs planned u) :
    server.resolve request s = (.ok (planned.mapM (fetchPlanned server) u).1.flatten,
      (planned.mapM (fetchPlanned server) u).2) := by
  obtain ⟨v, loaded, known⟩ := plans.opened
  unfold resolve
  rw [bind_apply, loaded]
  dsimp only
  rw [bind_apply, known]
  dsimp only
  rw [plans.made]
  rfl

end Plans

/-- A request is refused by the time that it is known what the server serves, or it can be planned. -/
theorem resolve_cases (request : Request) (s : Session σ) :
    (∃ failure u, server.resolve request s = (.error failure, u) ∧ server.Learned s u) ∨
      ∃ c refs planned u, server.Plans request s c refs planned u := by
  unfold resolve
  rw [bind_apply]
  obtain ⟨fault, -, loaded⟩ | ⟨refs, left, -, loaded⟩ := server.loadManifests_run request s
  · rw [loaded]
    exact .inl ⟨_, _, rfl, .told rfl rfl⟩
  · rw [loaded]
    dsimp only
    rw [bind_apply]
    have learned : server.Learned s ((catalog server).run { s with manifests := left }).2 :=
      server.learned_of_catalog rfl rfl rfl
    rcases known : (catalog server).run { s with manifests := left } with ⟨fault | c, u⟩
    · rw [known] at learned
      exact .inl ⟨_, _, rfl, learned⟩
    · rw [known] at learned
      dsimp only
      cases made : Plan.ofRequest c request refs with
      | error failure => exact .inl ⟨_, _, rfl, learned⟩
      | ok planned => exact .inr ⟨c, refs, planned, u, ⟨_, loaded, known⟩, made⟩

theorem resolve_answered {request : Request} {items : List Fetched} {s t : Session σ}
    (answered : server.resolve request s = (.ok items, t)) :
    ∃ c refs planned u, server.Plans request s c refs planned u ∧
      items = (planned.mapM (fetchPlanned server) u).1.flatten ∧
        t = (planned.mapM (fetchPlanned server) u).2 := by
  obtain ⟨failure, u, refused, -⟩ | ⟨c, refs, planned, u, plans⟩ := server.resolve_cases request s
  · rw [refused] at answered
    cases answered
  · rw [plans.resolve_eq] at answered
    cases answered
    exact ⟨c, refs, planned, u, plans, rfl, rfl⟩

/-- All objects that a source answers with belong to what the server is known to serve. -/
theorem served_of_resolve {request : Request} {items : List Fetched} {s t : Session σ}
    (answered : server.resolve request s = (.ok items, t)) (member : h ∈ handles items) :
    ∃ c, t.catalog? = some c ∧ Served c h := by
  obtain ⟨c, refs, planned, u, plans, rfl, rfl⟩ := server.resolve_answered answered
  refine ⟨c, (Sends.mapM server.onlyReads_fetchPlanned planned u).known c plans.known, ?_⟩
  obtain ⟨t, v, listed, read⟩ := server.target_of_handles member
  exact server.served_of_fetchTarget (Plan.known_of_request plans.made listed) read

/-- Asked for one object of a namespace, the server answers with an object of that name and
namespace. -/
def Truthful (c : Catalog) : Prop :=
  ∀ r ∈ c.entries, r.namespaced = true → ∀ ns name what (s : Session σ) o,
    Location.IsPathPart ns → Location.IsPathPart name →
      ((server.fetch what
        (HttpRequest.getAt (resourcePath r.group r.apiVersion r.plural (some ns) ++ "/" ++ name))
        LiveObject.ofJson?).run s).1 = .ok o →
      (o.toHandle r (some ns)).name = name ∧ (o.toHandle r (some ns)).ns? = some ns

section FollowUp

variable {server} {accepts : Gvk → Bool} {ns : String} {s t : Session σ}

/-- The object that is fetched for a found workload is that workload. -/
theorem identities_of_fetchWorkload (truthful : server.Truthful c)
    (placed : ∀ r ∈ c.entries, accepts r.gvk = true → r.namespaced = true)
    (plain : Location.ArePathParts ref.ns? ref.name) (within : ref.ns?.isSome) :
    (((handles (fetchPlanned server (Plan.ofWorkload c ns ref) s).1).filter fun h =>
      accepts h.gvk).map Handle.identity).Sublist [ref.identity] := by
  unfold Plan.ofWorkload
  cases found : c.find? ref.gvk with
  | none => exact List.nil_sublist _
  | some r =>
    obtain ⟨listed, type⟩ := Catalog.mem_of_find? found
    obtain ⟨space, inside⟩ := Option.isSome_iff_exists.mp within
    simp only [fetchPlanned]
    rw [server.fetchTarget_one rfl]
    split
    · next o fetched =>
      cases accepted : accepts r.gvk with
      | false => simp [handles, LiveObject.toHandle, accepted, Plan.targetOf]
      | true =>
        have namespaced := placed r listed accepted
        simp only [Plan.targetOf, namespaced, if_true, inside, Option.getD_some] at fetched ⊢
        obtain ⟨name, same⟩ := truthful r listed namespaced space ref.name _ s o
          (plain.2 space inside) plain.1 fetched
        have identity : (o.toHandle r (some space)).identity = ref.identity := by
          rw [Handle.identity, WorkloadRef.identity, name, same, inside, ← type]
          rfl
        simp only [handles, List.filterMap_cons, Except.toOption, List.filterMap_nil]
        exact (List.filter_sublist.map _).trans (by simp [identity])
    · exact List.nil_sublist _

theorem identities_of_fetchWorkloads (truthful : server.Truthful c)
    (placed : ∀ r ∈ c.entries, accepts r.gvk = true → r.namespaced = true) {refs : List WorkloadRef}
    (plain : ∀ ref ∈ refs, Location.ArePathParts ref.ns? ref.name ∧ ref.ns?.isSome) :
    (((handles ((refs.map (Plan.ofWorkload c ns)).mapM (fetchPlanned server) s).1.flatten).filter
      fun h => accepts h.gvk).map Handle.identity).Sublist (refs.map WorkloadRef.identity) := by
  induction refs generalizing s with
  | nil => exact List.nil_sublist _
  | cons ref rest ih =>
    obtain ⟨⟨parts, within⟩, later⟩ := List.forall_mem_cons.mp plain
    rw [List.map_cons, mapM_cons_apply, List.flatten_cons, handles, List.filterMap_append,
      List.filter_append, List.map_append]
    exact (identities_of_fetchWorkload truthful placed parts within).append (ih later)

/-- The workloads among the objects that answer a request for found workloads are those workloads, in
order. -/
theorem identities_of_followUp (accepts : Gvk → Bool) {request : Request} {refs : List WorkloadRef}
    {items : List Fetched}
    (answered : server.resolve (request.followUp refs) s = (.ok items, t)) :
    ∃ c, t.catalog? = some c ∧ (server.Truthful c →
      (∀ r ∈ c.entries, accepts r.gvk = true → r.namespaced = true) →
      (∀ ref ∈ refs, Location.ArePathParts ref.ns? ref.name ∧ ref.ns?.isSome) →
      (((handles items).filter fun h => accepts h.gvk).map Handle.identity).Sublist
        (refs.map WorkloadRef.identity)) := by
  obtain ⟨c, refs', planned, u, plans, rfl, rfl⟩ := server.resolve_answered answered
  obtain rfl := plans.nil_of_without rfl
  obtain rfl := Plan.planned_of_followUp plans.made
  exact ⟨c, (Sends.mapM server.onlyReads_fetchPlanned _ u).known c plans.known,
    fun truthful placed plain => identities_of_fetchWorkloads truthful placed plain⟩

end FollowUp

end Server

end Rollback
