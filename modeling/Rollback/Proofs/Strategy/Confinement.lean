import Rollback.CommandLine.Command
import Rollback.Proofs.Strategy.Once
import Rollback.Proofs.Strategy.Run
import Rollback.Proofs.Workload.Arguments

/-! A namespace that was asked for confines a run. It is worked out anew for arguments, for manifests,
for the workloads that pointers name, and by each strategy, once from the object's coordinates and once
from its metadata; wherever it comes from, it is the same one. -/
namespace Rollback

open Engine Location

variable {σ : Type}

/-- The request is for something under a path, however its text goes on. If nothing in the path cuts it
off, the place of the request begins with it. -/
structure HttpRequest.Under (path : String) (r : HttpRequest) : Prop where
  text : ∃ rest params, Location.read (path ++ rest) params = some r.location
  begins : '#' ∉ path.toList → '?' ∉ path.toList → path.toList <+: r.location.path.toList

namespace HttpRequest

variable {path rest name : String} {params : List (String × String)} {r : HttpRequest}

theorem isPrefix_of_split {α : Type} {first rest before after : List α} {x : α} (absent : x ∉ first)
    (same : first ++ rest = before ++ x :: after) : first <+: before := by
  obtain ⟨more, rfl, -⟩ | ⟨more, rfl, rest⟩ := List.append_eq_append_iff.mp same
  · exact List.prefix_append first more
  · cases more with
    | nil => simp
    | cons y more =>
      obtain ⟨rfl, -⟩ := List.cons.inj rest
      simp at absent

theorem under_of_read (located : Location.read (path ++ rest) params = some r.location) :
    r.Under path := by
  refine ⟨⟨rest, params, located⟩, fun uncut unasked => ?_⟩
  have text : (path ++ rest).toList = path.toList ++ rest.toList := String.toList_append
  generalize r.location = location at located ⊢
  cases read_cases located with
  | whole same plain =>
    rw [String.toList_ofList, ← same, text]
    exact List.prefix_append _ _
  | question same plain | cutQuestion same plain =>
    rw [String.toList_ofList]
    exact isPrefix_of_split unasked (text.symm.trans same)
  | cut same plain =>
    rw [String.toList_ofList]
    exact isPrefix_of_split uncut (text.symm.trans same)

theorem under_of_getAt (asked : getAt (path ++ "/" ++ name) = some r) : r.Under path := by
  obtain ⟨location, located, rfl⟩ := Option.map_eq_some_iff.mp asked
  rw [String.append_assoc] at located
  exact under_of_read located

theorem under_of_listAt {selector? : Option String} (asked : listAt path selector? = some r) :
    r.Under path := by
  obtain ⟨location, located, rfl⟩ := Option.map_eq_some_iff.mp asked
  exact under_of_read located

theorem under_of_patchAt {tryOnly : Bool} {kind : PatchKind} {body : Json}
    (built : patchAt (path ++ "/" ++ name) tryOnly kind body = some r) : r.Under path := by
  obtain ⟨location, located, rfl⟩ := Option.map_eq_some_iff.mp built
  rw [String.append_assoc, String.append_assoc] at located
  exact under_of_read located

end HttpRequest

/-- The types whose objects in a namespace a run has business with, each by its group, the version text
in its path and its plural: those that the catalog lists with namespaces, deployments with the kinds
that keep histories, and workloads under the plural that their kind suggests. -/
inductive Catalog.Concerns (c : Catalog) : String → String → String → Prop where
  | listed {r : Resource} (listed : r ∈ c.entries) (namespaced : r.namespaced = true) :
      c.Concerns r.group r.apiVersion r.plural
  | apps {plural : String} (known : plural ∈ ["deployments", "replicasets", "controllerrevisions"]) :
      c.Concerns "apps" "apps/v1" plural
  | workload {gvk : Gvk} (listed : ∃ r ∈ c.entries, r.gvk = gvk) (history : gvk.HasHistory) :
      c.Concerns gvk.group gvk.apiVersion (Plural.ofKind gvk.kind)

/-- A request in one namespace, or a read of a resource that has no namespaces. -/
inductive Confined (c : Catalog) (ns : String) (r : HttpRequest) : Prop where
  | inside {group apiVersion plural : String} (concern : c.Concerns group apiVersion plural)
      (under : r.Under (resourcePath group apiVersion plural (some ns)))
  | outside {resource : Resource} (listed : resource ∈ c.entries) (scope : resource.namespaced = false)
      (reads : r.Reads)
      (under : r.Under (resourcePath resource.group resource.apiVersion resource.plural none))

/-- A target of a known resource, in the namespace if the resource has namespaces. -/
structure PlannedTarget.Within (c : Catalog) (ns : String) (t : PlannedTarget) : Prop where
  listed : t.resource ∈ c.entries
  place : t.ns? = if t.resource.namespaced then some ns else none

/-- Objects that the server gives for a namespace say that they are in it, or nothing, and objects
without namespace say nothing. Of the latter only workloads matter. -/
def Server.Scoped (server : Server σ) (c : Catalog) (ns : String) : Prop :=
  ∀ t : PlannedTarget, t.Within c ns →
    t.resource.namespaced = true ∨ t.resource.gvk.HasHistory → ∀ (s : Session σ) (h : Handle),
      .ok h ∈ (fetchTarget server t s).1 → ∀ space,
        h.object.textAt? ["metadata", "namespace"] = some space → t.ns? = some space

/-- An object of a known resource that is in no other namespace, whether its coordinates are asked or
the metadata from which a strategy goes on. -/
structure Handle.Within (c : Catalog) (ns : String) (h : Handle) : Prop where
  listed : ∃ r ∈ c.entries, r.gvk = h.gvk
  place : ∀ space, h.ns? = some space → space = ns
  object : h.gvk.HasHistory →
    ∀ space, h.object.textAt? ["metadata", "namespace"] = some space → space = ns

/-- A request for nothing outside a namespace. -/
structure Request.StaysIn (request : Request) (ns : String) : Prop where
  own : request.ns = ns
  workloads : ∀ ref, .workload ref ∈ request.args → ref.ns?.getD ns = ns
  manifests : request.filenames = [] ∨ request.enforceNamespace = true

variable {c : Catalog} {ns : String} {t : PlannedTarget} {h : Handle} {request : Request}

namespace Plan

theorem within_targetOf {r : Resource} (listed : r ∈ c.entries) (ns : String) (name? : Option String) :
    (targetOf r ns name?).Within c ns := ⟨listed, rfl⟩

theorem within_of_argument {arg : Argument} (planned : ofArgument c ns arg = .ok (.ok t))
    (stays : ∀ ref, arg = .workload ref → ref.ns?.getD ns = ns) : t.Within c ns := by
  cases arg with
  | typed resource name? =>
    cases found : c.resolve resource with
    | error fault => simp [ofArgument, found] at planned
    | ok r =>
      simp only [ofArgument, found] at planned
      cases planned
      exact within_targetOf (Catalog.mem_of_resolve found) ns name?
  | workload ref =>
    cases found : c.find? ref.gvk with
    | none => simp [ofArgument, found] at planned
    | some r =>
      simp only [ofArgument, found, stays ref rfl] at planned
      cases planned
      exact within_targetOf (Catalog.mem_of_find? found).1 ns _

/-- A manifest that names another namespace is refused when the namespace is enforced. -/
theorem within_of_reference {m : Reference} (planned : ofReference c request m = .ok (.ok t))
    (enforced : request.enforceNamespace = true) : t.Within c request.ns := by
  unfold ofReference at planned
  split at planned
  · cases planned
  · next allowed =>
    have space : m.ns?.getD request.ns = request.ns := by
      cases given : m.ns? with
      | none => rfl
      | some ns => simpa [given, enforced] using allowed
    split at planned
    · next r found =>
      rw [space] at planned
      cases planned
      exact within_targetOf (Catalog.mem_of_find? found).1 _ _
    · cases planned

theorem within_of_request {refs : List Reference} {planned : List (Except Failure PlannedTarget)}
    (made : ofRequest c request refs = .ok planned) (stays : request.StaysIn ns)
    (without : request.filenames = [] → refs = []) (member : .ok t ∈ planned) : t.Within c ns := by
  obtain rfl := stays.own
  obtain ⟨arg, given, named⟩ | ⟨m, given, read⟩ := origin_of_request made member
  · exact within_of_argument named fun ref same => stays.workloads ref (same ▸ given)
  · obtain none | enforced := stays.manifests
    · rw [without none] at given
      cases given
    · exact within_of_reference read enforced

end Plan

theorem PlannedTarget.Within.confined {r : HttpRequest} (within : t.Within c ns) (reads : r.Reads)
    (under : r.Under t.path) : Confined c ns r := by
  rw [PlannedTarget.path, within.place] at under
  cases namespaced : t.resource.namespaced with
  | true =>
    rw [namespaced, if_pos rfl] at under
    exact .inside (.listed within.listed namespaced) under
  | false =>
    rw [namespaced, if_neg Bool.false_ne_true] at under
    exact .outside within.listed namespaced reads under

theorem Server.sends_within (server : Server σ) (within : t.Within c ns) :
    Sends (Confined c ns) (fetchTarget server t) := by
  refine server.sends_fetchTarget (fun name r named asked => ?_) fun r asked => ?_
  · exact within.confined (HttpRequest.reads_of_getAt asked) (HttpRequest.under_of_getAt asked)
  · exact within.confined (HttpRequest.reads_of_listAt asked) (HttpRequest.under_of_listAt asked)

theorem Server.handle_within {server : Server σ} (placed : server.Scoped c ns) (within : t.Within c ns)
    {s : Session σ} (member : .ok h ∈ (fetchTarget server t s).1) : h.Within c ns := by
  obtain ⟨o, document, given, rfl⟩ := server.handle_of_fetchTarget member
  have asked (space : String) (same : t.ns? = some space) : space = ns := by
    rw [within.place] at same
    split at same
    · exact (Option.some.inj same).symm
    · cases same
  refine ⟨⟨t.resource, within.listed, rfl⟩, fun space same => ?_, fun history space own => ?_⟩
  · unfold LiveObject.toHandle at same
    dsimp only at same
    split at same
    · next namespaced =>
      cases own : o.metadata.textAt? ["namespace"] with
      | none =>
        rw [own] at same
        exact asked space same
      | some text =>
        rw [own] at same
        obtain rfl : text = space := Option.some.inj same
        refine asked text (placed t within (.inl namespaced) s _ member text ?_)
        rw [← own]
        exact LiveObject.textAt?_toJson given (by decide)
    · cases same
  · exact asked space (placed t within (.inr history) s _ member space own)

/-- Both strategies stay in the namespace of an object, wherever they take it from. -/
theorem Procedure.sends_confined (p : Procedure) (server : Server σ) (within : h.Within c ns)
    (registered : (h.gvk.group, h.gvk.kind) ∈ p.kinds) (selector : RevisionSelector)
    (dryRun : DryRun) : Sends (Confined c ns) (p.strategy server h selector dryRun) := by
  have history := Gvk.hasHistory_of_mem registered
  cases p with
  | replicaSets =>
    have space {d : DeploymentRollback.Ready} (found : DeploymentRollback.ready h = .ok d) :
        d.ns = ns := by
      obtain ⟨_, _, _, place, _⟩ := DeploymentRollback.ready_eq_ok.mp found
      exact within.place d.ns place
    refine replicaSets.sends_strategy server ?_ ?_ selector dryRun
    · intro path labels r listed asked
      obtain ⟨d, found, rfl⟩ := Option.map_eq_some_iff.mp listed
      have under := HttpRequest.under_of_listAt asked
      rw [DeploymentRollback.appsPath, space (ok_of_toOption found)] at under
      exact .inside (.apps (by simp)) under
    · intro path tryOnly kind body r placed built
      obtain ⟨d, found, rfl⟩ := Option.map_eq_some_iff.mp placed
      have under := HttpRequest.under_of_patchAt built
      rw [DeploymentRollback.appsPath, space (ok_of_toOption found)] at under
      exact .inside (.apps (by simp)) under
  | revisions patchKind =>
    have space {place : RevisionRollback.Coordinates}
        (found : RevisionRollback.coordinates h.object = .ok place) : place.ns = ns :=
      within.object history _ (RevisionRollback.coordinates_eq_ok.mp found).1
    refine (revisions patchKind).sends_strategy server ?_ ?_ selector dryRun
    · intro path labels r listed asked
      obtain ⟨place, found, rfl⟩ := Option.map_eq_some_iff.mp listed
      have under := HttpRequest.under_of_listAt asked
      rw [space (ok_of_toOption found)] at under
      exact .inside (.apps (by simp)) under
    · intro path tryOnly kind body r placed built
      obtain ⟨place, found, rfl⟩ := Option.map_eq_some_iff.mp placed
      have under := HttpRequest.under_of_patchAt built
      rw [space (ok_of_toOption found)] at under
      exact .inside (.workload within.listed history) under

section Answers

variable {server : Server σ} {s u w : Session σ} {refs : List Reference}
  {planned : List (Except Failure PlannedTarget)}

theorem within_of_plans (plans : server.Plans request s c refs planned u) (stays : request.StaysIn ns)
    (member : .ok t ∈ planned) : t.Within c ns :=
  Plan.within_of_request plans.made stays plans.nil_of_without member

theorem sends_planned (within : ∀ t, .ok t ∈ planned → t.Within c ns) :
    Sends (Confined c ns) (planned.mapM server.fetchPlanned) := by
  refine Sends.mapM_of_mem fun target member => ?_
  cases target with
  | error failure => exact Sends.pure _
  | ok t => exact server.sends_within (within t member)

theorem handles_within (placed : server.Scoped c ns) (within : ∀ t, .ok t ∈ planned → t.Within c ns)
    (member : h ∈ handles (planned.mapM server.fetchPlanned u).1.flatten) : h.Within c ns := by
  obtain ⟨t, v, listed, read⟩ := server.target_of_handles member
  exact Server.handle_within placed (within t listed) read

/-- The workloads that objects in the namespace point at are asked for in it. -/
theorem staysIn_followUp {found : List WorkloadRef}
    (pointers : ∀ ref ∈ found, ∃ h : Handle, (∀ space, h.ns? = some space → space = ns) ∧
      classify h = .ok (.pointer ref))
    (stays : request.StaysIn ns) : (request.followUp found).StaysIn ns := by
  refine ⟨stays.own, fun ref member => ?_, .inl rfl⟩
  obtain ⟨ref', inside, same⟩ := List.mem_map.mp member
  obtain rfl : ref' = ref := by simpa using same
  obtain ⟨h, place, classified⟩ := pointers ref' inside
  rw [(pointer_of_classify classified).2]
  cases space : h.ns? with
  | none => rfl
  | some x => exact place x space

/-- When the catalog is known, a request that stays in the namespace is answered from it. -/
theorem extends_resolve (known : w.catalog? = some c) (stays : request.StaysIn ns) :
    w.Extends (Confined c ns) (server.resolve request w).2 ∧ (server.Scoped c ns →
      ∀ items, (server.resolve request w).1 = .ok items → ∀ h ∈ handles items, h.Within c ns) := by
  have kept {v : Session σ} (learned : server.Learned w v) : w.Extends (Confined c ns) v := by
    cases learned with
    | told requests same =>
      have none : v.requests = w.requests ++ [] := by rw [requests, List.append_nil]
      exact ⟨⟨[], none, List.forall_mem_nil _⟩, fun c found => same.trans found⟩
    | asked unknown =>
      rw [unknown] at known
      cases known
  obtain ⟨failure, v, refused, learned⟩ | ⟨c', refs, planned, v, plans⟩ :=
    server.resolve_cases request w
  · rw [refused]
    refine ⟨kept learned, fun _ items answer => ?_⟩
    cases answer
  · have extended := kept plans.learned
    obtain rfl : c = c' := Option.some.inj ((extended.known c known).symm.trans plans.known)
    have within (t : PlannedTarget) (member : .ok t ∈ planned) : t.Within c ns :=
      within_of_plans plans stays member
    rw [plans.resolve_eq]
    refine ⟨extended.trans (sends_planned within v), fun placed items answer h member => ?_⟩
    cases answer
    exact handles_within placed within member

end Answers

theorem UndoOptions.staysIn {options : UndoOptions} {defaultNamespace : String}
    (given : options.ns? = some ns) (made : options.request defaultNamespace = .ok request) :
    request.StaysIn ns := by
  unfold UndoOptions.request at made
  split at made
  · cases made
  · next args parsed =>
    split at made
    · cases made
    · cases made
      refine ⟨by simp [given], fun ref member => ?_, .inr (by simp [given])⟩
      obtain ⟨resource, name?, same, -⟩ := Argument.unslashed_of_parse parsed member
      cases same

/-- With a namespace on the command line all of a run is confined to it. Besides finding out what it
serves, the server is only asked for things in that namespace, and for what has no namespace. -/
theorem Server.undo_confined (server : Server σ) (console : Console σ) (format : OutputFormat)
    (o : Options) (options : UndoOptions) (defaultNamespace ns : String) (request : Request) (world : σ)
    (catalog? : Option Catalog) (manifests : Manifest.Source) (given : options.ns? = some ns)
    (made : options.request defaultNamespace = .ok request) :
    let start := Session.start world catalog? manifests
    let ended := server.undo console.write format o request start
    (∀ c, ended.world.catalog? = some c → server.Scoped c ns) →
    ∃ u rest, server.Learned start u ∧ ended.world.requests = u.requests ++ rest ∧
      ∀ r ∈ rest, ∃ c, ended.world.catalog? = some c ∧ Confined c ns r := by
  intro start ended placed
  have stays : request.StaysIn ns := options.staysIn given made
  obtain ⟨failure, u, refused, learned⟩ | ⟨c, refs, planned, u, plans⟩ :=
    server.resolve_cases request start
  · refine ⟨u, [], learned, ?_, List.forall_mem_nil _⟩
    have whole : ended = _ := run_of_unanswered (c := server.collaborators console.write format o.dryRun)
      (congrArg Prod.fst refused)
    rw [whole, List.append_nil]
    exact congrArg (fun answer => answer.2.requests) refused
  · have within (t : PlannedTarget) (member : .ok t ∈ planned) : t.Within c ns :=
      within_of_plans plans stays member
    have known : ended.world.catalog? = some c := known_of_plans plans
    have scope := placed c known
    have rolls {h : Handle} (inside : h.Within c ns) : Rolls server o (Confined c ns) h :=
      fun p registered => p.sends_confined server inside registered _ _
    obtain ⟨rest, requests, all⟩ : ∃ rest, ended.world.requests = u.requests ++ rest ∧
        ∀ r ∈ rest, Confined c ns r := by
      refine (extends_undo plans (sends_planned within)
        (fun h member => rolls (handles_within scope within member)) fun found pointers w known => ?_).sent
      have again : (request.followUp found).StaysIn ns := by
        refine staysIn_followUp (fun ref member => ?_) stays
        obtain ⟨h, read, classified⟩ := pointers ref member
        exact ⟨h, (handles_within scope within read).place, classified⟩
      obtain ⟨extended, answered⟩ := extends_resolve known again
      exact ⟨extended, fun items answer h member => rolls (answered scope items answer h member)⟩
    exact ⟨u, rest, plans.learned, requests, fun r member => ⟨c, known, all r member⟩⟩

namespace Daemons

/-- The namespaces of the objects that a page holds: one object, or a list of them. -/
def spaces (page : String) : List (Option String) :=
  let document? := (replyText 200 (octets page)).toOption.bind Json.ofText?
  let one := (document?.bind LiveObject.ofJson?).toList
  let all := (document?.bind (Api.readList LiveObject.ofJson?)).getD []
  (one ++ all).map fun o => o.metadata.textAt? ["namespace"]

/-- The namespace of an object that is read is on one of the pages. -/
theorem space_of_fetchTarget {pages : List (String × String)} {s : Session Unit}
    (member : .ok h ∈ (Server.fetchTarget (server pages) t s).1) :
    ∃ page ∈ pages, h.object.textAt? ["metadata", "namespace"] ∈ spaces page.2 := by
  cases named : t.name? with
  | some name =>
    rw [Server.fetchTarget_one _ named] at member
    split at member
    · next o fetched =>
      obtain ⟨r, page, text, document, -, found, decoded, given, read⟩ := page_of_fetch fetched
      obtain rfl : h = o.toHandle t.resource t.ns? := by simpa using member
      refine ⟨_, mem_of_lookup found, ?_⟩
      rw [LiveObject.toHandle, LiveObject.textAt?_toJson read (by decide)]
      simp [spaces, decoded, given, read]
    · simp at member
  | none =>
    rw [Server.fetchTarget_all _ named] at member
    split at member
    · next objects fetched =>
      obtain ⟨r, page, text, document, -, found, decoded, given, read⟩ := page_of_fetch fetched
      obtain ⟨o, listed, rfl⟩ : ∃ o ∈ objects, o.toHandle t.resource t.ns? = h := by
        simpa using member
      obtain ⟨_, item, _, _, source⟩ := Api.source_of_readList read listed
      refine ⟨_, mem_of_lookup found, ?_⟩
      rw [LiveObject.toHandle, LiveObject.textAt?_toJson source (by decide)]
      simp only [spaces, decoded, Except.toOption, given, read, Option.bind_some, Option.getD_some]
      exact List.mem_map_of_mem (List.mem_append_right _ listed)
    · simp at member

def options : UndoOptions := { UndoOptions.empty with resources := ["rollout"], ns? := some "ns" }

def confinedRequest : Request := ⟨"ns", true, [.typed "rollout" none], [], false⟩

def confined : Ended (Session Unit) :=
  (server (pages "d")).undo Console.session.write .name ⟨.exact 1, .none⟩ confinedRequest
    (.start () (some ⟨[resource, rollouts]⟩) (.ofTree .empty [] []))

end Daemons

theorem undo_confined_rollouts :
    Daemons.confined.world.requests.map (fun r => (r.method, r.location.path)) =
        [("GET", "/apis/rollouts.kruise.io/v1beta1/namespaces/ns/rollouts"),
          ("GET", "/apis/apps/v1/namespaces/ns/daemonsets/d"),
          ("GET", "/apis/apps/v1/namespaces/ns/controllerrevisions"),
          ("PATCH", "/apis/apps/v1/namespaces/ns/daemonsets/d")] ∧
      ∃ u rest, (Daemons.server (Daemons.pages "d")).Learned
          (.start () (some ⟨[Daemons.resource, Daemons.rollouts]⟩) (.ofTree .empty [] [])) u ∧
        Daemons.confined.world.requests = u.requests ++ rest ∧
          ∀ r ∈ rest, ∃ c, Daemons.confined.world.catalog? = some c ∧ Confined c "ns" r := by
  have facts : Daemons.confined.world.catalog? = some ⟨[Daemons.resource, Daemons.rollouts]⟩ ∧
      Daemons.confined.world.requests.map (fun r => (r.method, r.location.path)) =
        [("GET", "/apis/rollouts.kruise.io/v1beta1/namespaces/ns/rollouts"),
          ("GET", "/apis/apps/v1/namespaces/ns/daemonsets/d"),
          ("GET", "/apis/apps/v1/namespaces/ns/controllerrevisions"),
          ("PATCH", "/apis/apps/v1/namespaces/ns/daemonsets/d")] := by
    decide +kernel
  obtain ⟨known, requests⟩ := facts
  have placed (c : Catalog) (found : Daemons.confined.world.catalog? = some c) :
      (Daemons.server (Daemons.pages "d")).Scoped c "ns" := by
    obtain rfl : _ = c := Option.some.inj (known.symm.trans found)
    intro t within _ s h member space own
    have namespaced : ∀ r ∈ [Daemons.resource, Daemons.rollouts], r.namespaced = true := by decide
    have pages : ∀ page ∈ Daemons.pages "d", ∀ x ∈ Daemons.spaces page.2,
        x = none ∨ x = some "ns" := by
      decide +kernel
    obtain ⟨page, there, inside⟩ := Daemons.space_of_fetchTarget member
    rw [own] at inside
    rw [within.place, namespaced _ within.listed, if_pos rfl]
    exact ((pages page there _ inside).resolve_left (Option.some_ne_none _)).symm
  have confined := Server.undo_confined (Daemons.server (Daemons.pages "d")) Console.session .name
    ⟨.exact 1, .none⟩ Daemons.options "default" "ns" Daemons.confinedRequest ()
    (some ⟨[Daemons.resource, Daemons.rollouts]⟩) (.ofTree .empty [] []) rfl (by decide +kernel)
  have run : Daemons.confined = (Daemons.server (Daemons.pages "d")).undo Console.session.write
    .name ⟨.exact 1, .none⟩ Daemons.confinedRequest
    (.start () (some ⟨[Daemons.resource, Daemons.rollouts]⟩) (.ofTree .empty [] [])) := rfl
  dsimp only at confined
  rw [← run] at confined
  exact ⟨requests, confined placed⟩

end Rollback
