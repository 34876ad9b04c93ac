import Rollback.Proofs.Server.Answers
import Rollback.Proofs.Server.Replies
import Mathlib.Data.List.Forall2

/-! What a request asks for and what it gets. It is refused as a whole for reasons that can be told from
the catalog and the request alone, before any object has been read. Otherwise its plan has one entry for
each argument and one for each manifest, and the answer is read entry by entry in that order. -/
namespace Rollback

variable {σ : Type} {c : Catalog} {ns : String} {request : Request} {manifests : List Reference}

theorem Catalog.find?_eq_none {gvk : Gvk} : c.find? gvk = none ↔ ∀ r ∈ c.entries, r.gvk ≠ gvk := by
  simp [find?, List.find?_eq_none]

namespace Plan

/-- Why a request is refused as a whole. -/
inductive Refused (c : Catalog) (request : Request) (manifests : List Reference) : Prop where
  | empty (noArgs : request.args = []) (noFiles : request.filenames = [])
  | unknown {resource : String} {name? : Option String} (asked : .typed resource name? ∈ request.args)
      (unresolved : ∃ fault, c.resolve resource = .error fault)
  | misplaced {m : Reference} {space : String} (listed : m ∈ manifests) (own : m.ns? = some space)
      (enforced : request.enforceNamespace = true) (other : space ≠ request.ns)
  | unserved {m : Reference} (listed : m ∈ manifests) (absent : ∀ r ∈ c.entries, r.gvk ≠ m.gvk)

/-- The target of a resource, in a namespace just when the resource has them. -/
structure Places (t : PlannedTarget) (r : Resource) (ns : String) (name? : Option String) : Prop where
  resource : t.resource = r
  name : t.name? = name?
  scope : t.ns? = none ↔ r.namespaced = false
  place : r.namespaced = true → t.ns? = some ns

inductive ForArgument (c : Catalog) (ns : String) : Argument → Except Failure PlannedTarget → Prop where
  | typed {resource : String} {name? : Option String} {r : Resource} {t : PlannedTarget}
      (meant : c.resolve resource = .ok r) (places : Places t r ns name?) :
      ForArgument c ns (.typed resource name?) (.ok t)
  | workload {ref : WorkloadRef} {r : Resource} {t : PlannedTarget} (served : c.find? ref.gvk = some r)
      (places : Places t r (ref.ns?.getD ns) (some ref.name)) :
      ForArgument c ns (.workload ref) (.ok t)
  | unserved {ref : WorkloadRef} (absent : ∀ r ∈ c.entries, r.gvk ≠ ref.gvk) :
      ForArgument c ns (.workload ref)
        (.error (.fetch ref.qualifiedName (CatalogFault.notServed ref.gvk).cause))

inductive ForManifest (c : Catalog) (ns : String) : Reference → Except Failure PlannedTarget → Prop where
  | served {m : Reference} {r : Resource} {t : PlannedTarget} (served : c.find? m.gvk = some r)
      (places : Places t r (m.ns?.getD ns) (some m.name)) : ForManifest c ns m (.ok t)

theorem places_targetOf (r : Resource) (ns : String) (name? : Option String) :
    Places (targetOf r ns name?) r ns name? := by
  constructor
  · rfl
  · rfl
  · cases namespaced : r.namespaced <;> simp [targetOf, namespaced]
  · intro namespaced
    simp [targetOf, namespaced]

theorem forArgument_of_planned {arg : Argument} {entry : Except Failure PlannedTarget}
    (planned : ofArgument c ns arg = .ok entry) : ForArgument c ns arg entry := by
  cases arg with
  | typed resource name? =>
    cases meant : c.resolve resource with
    | error fault => simp [ofArgument, meant] at planned
    | ok r =>
      simp only [ofArgument, meant] at planned
      cases planned
      exact .typed meant (places_targetOf _ _ _)
  | workload ref =>
    cases served : c.find? ref.gvk with
    | none =>
      simp only [ofArgument, served] at planned
      cases planned
      exact .unserved (Catalog.find?_eq_none.mp served)
    | some r =>
      simp only [ofArgument, served] at planned
      cases planned
      exact .workload served (places_targetOf _ _ _)

theorem ofArgument_fails_iff {arg : Argument} : (∃ failure, ofArgument c ns arg = .error failure) ↔
    ∃ resource name?, arg = .typed resource name? ∧ ∃ fault, c.resolve resource = .error fault := by
  cases arg with
  | typed resource name? => cases meant : c.resolve resource <;> simp [ofArgument, meant]
  | workload ref => cases served : c.find? ref.gvk <;> simp [ofArgument, served]

theorem forManifest_of_planned {m : Reference} {entry : Except Failure PlannedTarget}
    (planned : ofReference c request m = .ok entry) : ForManifest c request.ns m entry := by
  unfold ofReference at planned
  split at planned
  · cases planned
  · split at planned
    · next r served =>
      cases planned
      exact .served served (places_targetOf _ _ _)
    · cases planned

theorem ofReference_fails_iff {m : Reference} :
    (∃ failure, ofReference c request m = .error failure) ↔
      (∃ space, m.ns? = some space ∧ request.enforceNamespace = true ∧ space ≠ request.ns) ∨
        ∀ r ∈ c.entries, r.gvk ≠ m.gvk := by
  have misplaced (space : String) :
      (m.ns?.filter fun ns => request.enforceNamespace && ns != request.ns) = some space ↔
        m.ns? = some space ∧ request.enforceNamespace = true ∧ space ≠ request.ns := by
    simp [Option.filter_eq_some_iff]
  rw [← Catalog.find?_eq_none]
  simp only [← misplaced]
  unfold ofReference
  cases m.ns?.filter fun ns => request.enforceNamespace && ns != request.ns with
  | some space => simp
  | none => cases c.find? m.gvk <;> simp

theorem isEmpty_iff : request.isEmpty = true ↔ request.args = [] ∧ request.filenames = [] := by
  simp [Request.isEmpty]

theorem refused_iff : Refused c request manifests ↔ request.isEmpty = true ∨
    (∃ failure, request.args.mapM (ofArgument c request.ns) = .error failure) ∨
      ∃ failure, manifests.mapM (ofReference c request) = .error failure := by
  simp only [isEmpty_iff, Traversal.mapM_eq_error_iff, ofArgument_fails_iff, ofReference_fails_iff]
  constructor
  · intro refused
    cases refused with
    | empty noArgs noFiles => exact .inl ⟨noArgs, noFiles⟩
    | unknown asked unresolved => exact .inr (.inl ⟨_, asked, _, _, rfl, unresolved⟩)
    | misplaced listed own enforced other =>
      exact .inr (.inr ⟨_, listed, .inl ⟨_, own, enforced, other⟩⟩)
    | unserved listed absent => exact .inr (.inr ⟨_, listed, .inr absent⟩)
  · rintro (⟨noArgs, noFiles⟩ | ⟨arg, asked, resource, name?, rfl, unresolved⟩ |
      ⟨m, listed, ⟨space, own, enforced, other⟩ | absent⟩)
    · exact .empty noArgs noFiles
    · exact .unknown asked unresolved
    · exact .misplaced listed own enforced other
    · exact .unserved listed absent

theorem fails_iff {ε α : Type} {answer : Except ε α} :
    (∃ failure, answer = .error failure) ↔ ∀ a, answer ≠ .ok a := by
  cases answer <;> simp

theorem ofRequest_fails_iff :
    (∃ failure, ofRequest c request manifests = .error failure) ↔ Refused c request manifests := by
  rw [refused_iff, fails_iff, fails_iff, fails_iff]
  simp only [ne_eq, ofRequest_eq_ok]
  -- A plan is put together from three parts; it fails just when one of them cannot be had.
  constructor
  · intro unplanned
    by_contra possible
    push Not at possible
    obtain ⟨asked, ⟨args, first⟩, files, second⟩ := possible
    exact unplanned _ ⟨by simpa using asked, args, files, first, second, rfl⟩
  · rintro (empty | unnamed | unread) planned ⟨asked, args, files, first, second, -⟩
    · rw [empty] at asked
      cases asked
    · exact unnamed args first
    · exact unread files second

theorem resolution_of_argument {ns : String} {arg : Argument} {failure : Failure}
    (failed : ofArgument c ns arg = .error failure) : ∃ cause, failure = .resolution cause := by
  cases arg with
  | typed resource name? =>
    cases meant : c.resolve resource <;> simp only [ofArgument, meant] at failed <;> cases failed
    exact ⟨_, rfl⟩
  | workload ref =>
    cases served : c.find? ref.gvk <;> simp only [ofArgument, served] at failed <;> cases failed

theorem resolution_of_reference {m : Reference} {failure : Failure}
    (failed : ofReference c request m = .error failure) : ∃ cause, failure = .resolution cause := by
  unfold ofReference at failed
  split at failed
  · cases failed
    exact ⟨_, rfl⟩
  · split at failed <;> cases failed
    exact ⟨_, rfl⟩

/-- A request is refused because it asks for nothing, or with the failure of its first part that cannot be
planned. -/
theorem ofRequest_eq_error {failure : Failure} (refused : ofRequest c request manifests = .error failure) :
    failure = .unresolved "required resource not specified" ∨
      request.args.mapM (ofArgument c request.ns) = .error failure ∨
        manifests.mapM (ofReference c request) = .error failure := by
  unfold ofRequest at refused
  cases empty : request.isEmpty with
  | true =>
    rw [empty, if_pos rfl] at refused
    exact .inl (Except.error.inj refused).symm
  | false =>
    rw [empty, if_neg Bool.false_ne_true] at refused
    cases first : request.args.mapM (ofArgument c request.ns) with
    | error other =>
      rw [first] at refused
      exact .inr (.inl refused)
    | ok args =>
      cases second : manifests.mapM (ofReference c request) with
      | error other =>
        rw [first, second] at refused
        exact .inr (.inr refused)
      | ok files =>
        rw [first, second] at refused
        cases refused

theorem resolution_of_refused {failure : Failure}
    (refused : ofRequest c request manifests = .error failure) : ∃ cause, failure = .resolution cause := by
  obtain rfl | first | second := ofRequest_eq_error refused
  · exact ⟨_, rfl⟩
  · obtain ⟨-, arg, -, -, -, failed⟩ := Traversal.mapM_eq_error_iff_first.mp first
    exact resolution_of_argument failed
  · obtain ⟨-, m, -, -, -, failed⟩ := Traversal.mapM_eq_error_iff_first.mp second
    exact resolution_of_reference failed

theorem entries_of_planned {planned : List (Except Failure PlannedTarget)}
    (made : ofRequest c request manifests = .ok planned) :
    ∃ args files, planned = args ++ files ∧
      List.Forall₂ (ForArgument c request.ns) request.args args ∧
        List.Forall₂ (ForManifest c request.ns) manifests files := by
  obtain ⟨-, args, files, first, second, rfl⟩ := ofRequest_eq_ok.mp made
  refine ⟨args, files, rfl, ?_, ?_⟩
  · exact (Traversal.forall₂_of_mapM first).imp fun _ _ => forArgument_of_planned
  · exact (Traversal.forall₂_of_mapM second).imp fun _ _ => forManifest_of_planned

end Plan

def PlannedTarget.request? (t : PlannedTarget) : Option HttpRequest :=
  match t.name? with
  | some name => HttpRequest.getAt (t.path ++ "/" ++ name)
  | none => HttpRequest.listAt t.path none

theorem PlannedTarget.request?_one {t : PlannedTarget} {name : String} (single : t.name? = some name) :
    t.request? = HttpRequest.getAt (t.path ++ "/" ++ name) := by
  rw [request?, single]

theorem PlannedTarget.request?_all {t : PlannedTarget} (whole : t.name? = none) :
    t.request? = HttpRequest.listAt t.path none := by
  rw [request?, whole]

/-- What the reply to the request for a target brings: its object, or the objects of its type in the
order of the list, or else a failure in their place. -/
inductive PlannedTarget.Brings (t : PlannedTarget) (reply : Reply) : List Fetched → Prop where
  | object {name : String} {document : Json} {o : LiveObject} (single : t.name? = some name)
      (given : reply.document? = some document) (read : LiveObject.ofJson? document = some o) :
      t.Brings reply [.ok (o.toHandle t.resource t.ns?)]
  | noObject {name : String} {cause : Cause} (single : t.name? = some name)
      (unread : reply.document?.bind LiveObject.ofJson? = none) :
      t.Brings reply [.error (.fetch t.label cause)]
  | objects {document : Json} {sources : List Json} {objects : List LiveObject}
      (whole : t.name? = none) (given : reply.document? = some document)
      (listed : Api.listItems? document = some sources)
      (read : List.Forall₂ (fun source o => LiveObject.ofJson? source = some o) sources objects) :
      t.Brings reply (objects.map fun o => .ok (o.toHandle t.resource t.ns?))
  | noList {cause : Cause} (whole : t.name? = none)
      (unread : reply.document?.bind (Api.readList LiveObject.ofJson?) = none) :
      t.Brings reply [.error (.fetch t.label cause)]

/-- The entries of a plan are read one after the other. Each target costs one request, but for those
whose text is no location; a failure stands for itself. -/
inductive Gathers (server : Server σ) : Session σ → List (Except Failure PlannedTarget) →
    List Fetched → Session σ → Prop where
  | nil {s : Session σ} : Gathers server s [] [] s
  | failed {s u : Session σ} {failure : Failure} {rest : List (Except Failure PlannedTarget)}
      {items : List Fetched} (later : Gathers server s rest items u) :
      Gathers server s (.error failure :: rest) (.error failure :: items) u
  | unsent {s u : Session σ} {t : PlannedTarget} {cause : Cause}
      {rest : List (Except Failure PlannedTarget)} {items : List Fetched}
      (noLocation : t.request? = none) (later : Gathers server s rest items u) :
      Gathers server s (.ok t :: rest) (.error (.fetch t.label cause) :: items) u
  | sent {s u : Session σ} {t : PlannedTarget} {r : HttpRequest} {found : List Fetched}
      {rest : List (Except Failure PlannedTarget)} {items : List Fetched}
      (asked : t.request? = some r) (brings : t.Brings (server.send r s.world).1 found)
      (later : Gathers server (s.sent r (server.send r s.world).2) rest items u) :
      Gathers server s (.ok t :: rest) (found ++ items) u

namespace Server

variable (server : Server σ)

theorem run_fetch_none {α : Type} (what : String) (read? : Json → Option α) (s : Session σ) :
    (server.fetch what none read?).run s = (.error ⟨what, ["<kube error>"]⟩, s) := rfl

theorem unread_of_brings {α : Type} {what : String} {read? : Json → Option α} {reply : Reply}
    {cause : Cause} (failed : server.brings what read? reply = .error cause) :
    reply.document?.bind read? = none := by
  cases given : reply.document? with
  | none => rfl
  | some document =>
    rw [server.brings_of_document given] at failed
    split at failed
    · cases failed
    · next unread => exact unread

theorem fetchTarget_unsent {t : PlannedTarget} (noLocation : t.request? = none) (s : Session σ) :
    ∃ cause, fetchTarget server t s = ([.error (.fetch t.label cause)], s) := by
  cases named : t.name? with
  | some name =>
    rw [PlannedTarget.request?_one named] at noLocation
    refine ⟨⟨"get " ++ t.label, ["<kube error>"]⟩, Prod.ext ?_ ?_⟩
    · rw [server.fetchTarget_one named, noLocation, run_fetch_none]
    · rw [server.fetchTarget_session, named]
      dsimp only
      rw [noLocation, run_fetch_none]
  | none =>
    rw [PlannedTarget.request?_all named] at noLocation
    refine ⟨⟨"list " ++ t.label, ["<kube error>"]⟩, Prod.ext ?_ ?_⟩
    · rw [server.fetchTarget_all named, noLocation, run_fetch_none]
    · rw [server.fetchTarget_session, named]
      dsimp only
      rw [noLocation, run_fetch_none]

theorem fetchTarget_sent {t : PlannedTarget} {r : HttpRequest} (asked : t.request? = some r)
    (s : Session σ) :
    t.Brings (server.send r s.world).1 (fetchTarget server t s).1 ∧
      (fetchTarget server t s).2 = s.sent r (server.send r s.world).2 := by
  rw [server.fetchTarget_session]
  cases named : t.name? with
  | some name =>
    rw [PlannedTarget.request?_one named] at asked
    dsimp only
    rw [server.fetchTarget_one named, asked, server.run_fetch]
    refine ⟨?_, rfl⟩
    dsimp only
    split
    · next o brought =>
      obtain ⟨document, given, read⟩ := server.document_of_brings brought
      exact .object named given read
    · next cause failed => exact .noObject named (server.unread_of_brings failed)
  | none =>
    rw [PlannedTarget.request?_all named] at asked
    dsimp only
    rw [server.fetchTarget_all named, asked, server.run_fetch]
    refine ⟨?_, rfl⟩
    dsimp only
    split
    · next objects brought =>
      obtain ⟨document, given, read⟩ := server.document_of_brings brought
      obtain ⟨sources, listed, each⟩ := Api.forall₂_of_readList read
      exact .objects named given listed each
    · next cause failed => exact .noList named (server.unread_of_brings failed)

theorem gathers_planned (planned : List (Except Failure PlannedTarget)) (s : Session σ) :
    Gathers server s planned (planned.mapM (fetchPlanned server) s).1.flatten
      (planned.mapM (fetchPlanned server) s).2 := by
  -- Each entry is read in the session that the entries before it have left.
  induction planned generalizing s with
  | nil => exact .nil
  | cons entry rest ih =>
    rw [mapM_cons_apply, List.flatten_cons]
    cases entry with
    | error failure => exact .failed (ih s)
    | ok t =>
      cases asked : t.request? with
      | none =>
        obtain ⟨cause, fetched⟩ := server.fetchTarget_unsent asked s
        have step : fetchPlanned server (.ok t) s = _ := fetched
        rw [step]
        exact .unsent asked (ih s)
      | some r =>
        obtain ⟨brings, after⟩ := server.fetchTarget_sent asked s
        have step : (fetchPlanned server (.ok t) s).2 = _ := after
        rw [step]
        exact .sent asked brings (ih _)

/-- Nothing but the manifests of a request ends the program, and it ends before anything is sent. -/
theorem resolve_overflow_iff {s t : Session σ} : server.resolve request s = (.error .overflow, t) ↔
    Manifest.load server.settings.manifestLimit request.recursive s.manifests request.filenames =
      .error .overflow ∧ t = s := by
  unfold resolve
  rw [bind_apply]
  obtain ⟨fault, failed, loaded⟩ | ⟨refs, left, read, loaded⟩ := server.loadManifests_run request s
  · rw [loaded, failed]
    cases fault with
    | told cause =>
      constructor
      · rintro ⟨⟩
      · rintro ⟨⟨⟩, -⟩
    | overflow =>
      constructor
      · rintro ⟨⟩
        exact ⟨rfl, rfl⟩
      · rintro ⟨-, rfl⟩
        rfl
  · rw [loaded, read]
    refine ⟨fun ended => ?_, fun ⟨ended, _⟩ => nomatch ended⟩
    dsimp only at ended
    rw [bind_apply] at ended
    rcases known : (catalog server).run { s with manifests := left } with ⟨fault | c, u⟩
    · rw [known] at ended
      cases ended
    · rw [known] at ended
      dsimp only at ended
      cases made : Plan.ofRequest c request refs with
      | error failure =>
        rw [made] at ended
        cases ended
        obtain ⟨cause, other⟩ := Plan.resolution_of_refused made
        cases other
      | ok planned =>
        rw [made] at ended
        cases ended

variable {server}

/-- To find out what a server serves no object is asked for. -/
theorem Learned.asks {s u : Session σ} (learned : server.Learned s u) :
    ∃ more, u.requests = s.requests ++ more ∧ ∀ r ∈ more, Discovery.Asks server r := by
  cases learned with
  | told requests known => exact ⟨[], by rw [requests, List.append_nil], fun _ => nofun⟩
  | @asked v _ unknown world requests sent =>
    obtain ⟨more, asked, all⟩ := (Discovery.sends_run server v).sent
    refine ⟨more, ?_, all⟩
    rw [sent, ← requests]
    exact asked

/-- A plan fails for the reasons of `Plan.Refused` and for no other, and otherwise has an entry for each
argument and then for each manifest. A request that is refused has cost the server nothing but to say
what it serves; of any other the plan is read from its beginning to its end. -/
theorem resolve_planned (server : Server σ) (request : Request) (s : Session σ) :
    (∀ c manifests,
      ((∃ failure, Plan.ofRequest c request manifests = .error failure) ↔
        Plan.Refused c request manifests) ∧
      ∀ planned, Plan.ofRequest c request manifests = .ok planned →
        ∃ args files, planned = args ++ files ∧
          List.Forall₂ (Plan.ForArgument c request.ns) request.args args ∧
            List.Forall₂ (Plan.ForManifest c request.ns) manifests files) ∧
    (∀ failure t, server.resolve request s = (.error failure, t) →
      server.Learned s t ∧
        ∃ more, t.requests = s.requests ++ more ∧ ∀ r ∈ more, Discovery.Asks server r) ∧
    ∀ items t, server.resolve request s = (.ok items, t) →
      ∃ c manifests planned u, server.Plans request s c manifests planned u ∧
        server.Learned s u ∧ Gathers server u planned items t := by
  refine ⟨?_, ?_, ?_⟩
  · intro c manifests
    exact ⟨Plan.ofRequest_fails_iff, fun planned => Plan.entries_of_planned⟩
  · intro failure t refused
    obtain ⟨cause, u, early, learned⟩ | ⟨c, refs, planned, u, plans⟩ := server.resolve_cases request s
    · rw [early] at refused
      cases refused
      exact ⟨learned, learned.asks⟩
    · rw [plans.resolve_eq] at refused
      cases refused
  · intro items t answered
    obtain ⟨c, refs, planned, u, plans, rfl, rfl⟩ := server.resolve_answered answered
    exact ⟨c, refs, planned, u, plans, plans.learned, server.gathers_planned planned u⟩

end Server

/-! A server that serves deployments and has two of them, which it lists or gives one by one. -/
namespace TwoDeployments

def deployments : Resource :=
  ⟨"apps", "v1", "Deployment", "deployments", "apps/v1", true, true, ["get"]⟩

def object (name : String) : String :=
  "\x7b\"metadata\":\x7b\"name\":\"" ++ name ++ "\"\x7d\x7d"

def list : String :=
  "\x7b\"metadata\":\x7b\x7d,\"items\":[" ++ object "b" ++ "," ++ object "a" ++ "]\x7d"

def server : Server Unit where
  send r := pure (.answer 200 ((if r.location.path = "/apis/apps/v1/namespaces/ns/deployments" then list
    else object "a").toList.map fun c => c.toNat.toUInt8))
  settings := .ofEnvironment []

def catalog : Catalog := ⟨[deployments]⟩

def session : Session Unit := .start () (some catalog) (.ofTree .empty [] [])

/-- A deployment at a version that is not served. -/
def old : WorkloadRef := ⟨⟨"apps", "v1beta2", "Deployment"⟩, some "ns", "a"⟩

/-- All deployments, the one that is not served, and one deployment. -/
def mixed : Request :=
  ⟨"ns", false, [.typed "deploy" none, .workload old, .typed "deployments.apps" (some "a")], [], false⟩

/-- The same with a type that the server does not know. -/
def misspelled : Request := { mixed with args := mixed.args ++ [.typed "widgets" none] }

def planned : List (Except Failure PlannedTarget) :=
  [.ok ⟨deployments, some "ns", none⟩,
    .error (.fetch old.qualifiedName (CatalogFault.notServed old.gvk).cause),
    .ok ⟨deployments, some "ns", some "a"⟩]

def names (request : Request) : Option (List (Option String)) :=
  (server.resolve request session).1.toOption.map fun items =>
    items.map fun item => item.toOption.map Handle.name

end TwoDeployments

open TwoDeployments in
theorem resolve_planned_deployments :
    Plan.ofRequest catalog mixed [] = .ok planned ∧
      (∃ args files, planned = args ++ files ∧
        List.Forall₂ (Plan.ForArgument catalog "ns") mixed.args args ∧
          List.Forall₂ (Plan.ForManifest catalog "ns") [] files) ∧
      Plan.Refused catalog misspelled [] ∧
      (∃ failure t, server.resolve misspelled session = (.error failure, t) ∧ server.Learned session t) ∧
      names mixed = some [some "b", some "a", none, some "a"] ∧
      ∃ items t, server.resolve mixed session = (.ok items, t) ∧
        ∃ c manifests planned u, server.Plans mixed session c manifests planned u ∧
          server.Learned session u ∧ Gathers server u planned items t := by
  obtain ⟨plans, -, answers⟩ := Server.resolve_planned server mixed session
  obtain ⟨refusals, refuses, -⟩ := Server.resolve_planned server misspelled session
  have made : Plan.ofRequest catalog mixed [] = .ok planned := by decide +kernel
  have answered : names mixed = some [some "b", some "a", none, some "a"] := by decide +kernel
  have unanswered : names misspelled = none := by decide +kernel
  refine ⟨made, (plans catalog []).2 planned made, ?_, ?_, answered, ?_⟩
  · apply (refusals catalog []).1.mp
    exact ⟨_, rfl⟩
  · rcases run : server.resolve misspelled session with ⟨failure | items, t⟩
    · exact ⟨failure, t, rfl, (refuses failure t run).1⟩
    · simp [names, run] at unanswered
  · rcases run : server.resolve mixed session with ⟨failure | items, t⟩
    · simp [names, run] at answered
    · exact ⟨items, t, rfl, answers items t run⟩

end Rollback
