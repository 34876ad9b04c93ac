import Rollback.Proofs.Engine.Gate
import Rollback.Proofs.Strategy.Once
import Rollback.Proofs.Strategy.Run

/-! Only objects that were read are changed. Objects are read at the addresses that the catalog gives, and
changed at addresses that are worked out from their coordinates or their metadata; a change has an
earlier read of its object, for a target of the request or for a workload that a pointer among those
names. -/
namespace Rollback

open Engine

variable {σ : Type}

/-- Workloads are served in namespaces, under the small letters of their kind and an `s`. -/
def Catalog.ServesWorkloads (c : Catalog) : Prop :=
  ∀ r ∈ c.entries, r.gvk.HasHistory →
    r.namespaced = true ∧ r.plural = Text.lowerCase r.kind ++ "s"

/-- Asked for a target by its name, the server gives objects of that name and namespace. -/
def Server.AnswersAs (server : Server σ) (t : PlannedTarget) : Prop :=
  ∀ name, t.name? = some name → ∀ (s : Session σ) (h : Handle),
    .ok h ∈ (fetchTarget server t s).1 → h.name = name ∧ h.ns? = t.ns?

/-- A server that answers truthfully gives what is asked for in a namespace, if nothing in its address
is cut off. -/
theorem Server.answersAs_of_truthful {server : Server σ} {c : Catalog} {r : Resource}
    {ns name : String} (truthful : server.Truthful c) (listed : r ∈ c.entries)
    (namespaced : r.namespaced = true) (space : Location.IsPathPart ns) (part : Location.IsPathPart name) :
    server.AnswersAs (Plan.targetOf r ns (some name)) := by
  intro asked same s h member
  obtain rfl := Option.some.inj same
  have place : (Plan.targetOf r ns (some name)).ns? = some ns := if_pos namespaced
  rw [server.fetchTarget_one rfl, PlannedTarget.path, place] at member
  split at member
  · next o fetched =>
    obtain rfl : h = o.toHandle (Plan.targetOf r ns (some name)).resource (some ns) := by
      simpa using member
    rw [place]
    exact truthful r listed namespaced ns name _ s o space part fetched
  · simp at member

/-- An object was read for a target of a request: for one of its arguments or manifests, after the
targets before it. The log is what had been sent then, the read with which the object came last. -/
inductive Server.ReadFor (server : Server σ) (request : Request) (s : Session σ) :
    PlannedTarget → Handle → List HttpRequest → Prop where
  | fetched {c : Catalog} {refs : List Reference} {u v : Session σ}
      {earlier later : List (Except Failure PlannedTarget)} {t : PlannedTarget} {h : Handle}
      {r : HttpRequest} (plans : server.Plans request s c refs (earlier ++ .ok t :: later) u)
      (named : (∃ arg ∈ request.args, Plan.ofArgument c request.ns arg = .ok (.ok t)) ∨
        ∃ m ∈ refs, Plan.ofReference c request m = .ok (.ok t))
      (moment : (earlier.mapM server.fetchPlanned u).2 = v)
      (read : .ok h ∈ (fetchTarget server t v).1) (get : r.method = "GET")
      (sent : (fetchTarget server t v).2.requests = v.requests ++ [r]) :
      server.ReadFor request s t h (v.requests ++ [r])

/-- Where an object comes from that was read before a log ends: from the request, or from a pointer that
came from it. `middle` is the progress between the phases. -/
inductive Server.Sourced (server : Server σ) (request : Request) (s : Session σ)
    (middle : Progress (Session σ)) (log : List HttpRequest) : Handle → Prop where
  | named {t : PlannedTarget} {h : Handle} {past : List HttpRequest}
      (read : server.ReadFor request s t h past) (before : past <+: log) :
      server.Sourced request s middle log h
  | pointed {ref : WorkloadRef} {t t' : PlannedTarget} {pointer h : Handle}
      {past past' : List HttpRequest} (read : server.ReadFor request s t pointer past)
      (before : past <+: log) (classified : classify pointer = .ok (.pointer ref))
      (queued : ref ∈ middle.report.discovered)
      (followed : server.ReadFor (request.followUp middle.report.discovered) middle.world t' h past')
      (before' : past' <+: log)
      (type : h.gvk = ref.gvk) (name : h.name = ref.name)
      (space : h.ns? = some (pointer.ns?.getD request.ns)) : server.Sourced request s middle log h

/-- A change is for an object: it goes to the group, plural, namespace and name of the object. Only the
version in its path may be that of the object in place of that under which the object is served. -/
inductive Aimed (c : Catalog) (h : Handle) (change : HttpRequest) : Prop where
  | at {r : Resource} {ns apiVersion path : String} {tryOnly : Bool} {kind : PatchKind} {body : Json}
      (listed : r ∈ c.entries) (type : r.gvk = h.gvk) (space : h.ns? = some ns)
      (version : apiVersion = r.apiVersion ∨ apiVersion = h.gvk.apiVersion)
      (address : path = resourcePath r.group apiVersion r.plural (some ns) ++ "/" ++ h.name)
      (built : HttpRequest.patchAt path tryOnly kind body = some change)
      (whole : '#' ∉ path.toList → '?' ∉ path.toList → change.location.path = path) :
      Aimed c h change

section Objects

variable {server : Server σ} {request : Request} {s u : Session σ} {middle : Progress (Session σ)}
  {c : Catalog} {log : List HttpRequest} {h : Handle} {refs : List Reference}
  {planned : List (Except Failure PlannedTarget)} {t : PlannedTarget}

theorem Server.Sourced.later {longer : List HttpRequest} (sourced : server.Sourced request s middle log h)
    (grown : log <+: longer) : server.Sourced request s middle longer h := by
  cases sourced with
  | named read before => exact .named read (before.trans grown)
  | pointed read before classified queued followed before' type name space =>
    exact .pointed read (before.trans grown) classified queued followed (before'.trans grown) type name
      space

theorem Session.Extends.isPrefix {kind : HttpRequest → Prop} {t : Session σ}
    (longer : s.Extends kind t) : s.requests <+: t.requests := by
  obtain ⟨⟨more, requests, -⟩, -⟩ := longer
  exact ⟨more, requests.symm⟩

theorem readFor_of_plans (plans : server.Plans request s c refs planned u)
    (member : h ∈ handles (planned.mapM server.fetchPlanned u).1.flatten) :
    ∃ t past v, .ok t ∈ planned ∧ .ok h ∈ (Server.fetchTarget server t v).1 ∧
      server.ReadFor request s t h past ∧
        past <+: (planned.mapM server.fetchPlanned u).2.requests := by
  obtain ⟨earlier, t, later, v, rfl, moment, read, ends⟩ := server.split_of_handles member
  have listed : .ok t ∈ earlier ++ .ok t :: later := List.mem_append_right _ List.mem_cons_self
  obtain ⟨_, _, r, -, -, reads, sent⟩ := server.read_of_fetchTarget read
  have origin := Plan.origin_of_request plans.made listed
  refine ⟨t, _, v, listed, read, .fetched plans origin moment read reads.method sent, ?_⟩
  rw [ends, ← sent]
  exact (Sends.mapM server.onlyReads_fetchPlanned later _).isPrefix

theorem plural_of_hasHistory {g : Gvk} (history : g.HasHistory) :
    Plural.ofKind g.kind = Text.lowerCase g.kind ++ "s" := by
  have all : ∀ kind ∈ Procedure.allKinds, Plural.ofKind kind.2 = Text.lowerCase kind.2 ++ "s" := by
    decide +kernel
  exact all (g.group, g.kind) history

theorem not_isPointer_of_hasHistory {g : Gvk} (history : g.HasHistory) : g.isPointer = false := by
  have all : ∀ kind ∈ Procedure.allKinds, (kind.1 == rolloutGroup && kind.2 == rolloutKind) = false := by
    decide
  exact all (g.group, g.kind) history

theorem aimed_of_path {p : Procedure} {path : String} {tryOnly : Bool} {kind : PatchKind} {body : Json}
    {change : HttpRequest} (served : Served c h) (serves : c.ServesWorkloads)
    (registered : (h.gvk.group, h.gvk.kind) ∈ p.kinds) (found : p.path? h = some path)
    (built : HttpRequest.patchAt path tryOnly kind body = some change) : Aimed c h change := by
  have history := Gvk.hasHistory_of_mem registered
  obtain ⟨r, listed, type, ns, apiVersion, space, version, address⟩ := served.address
    (fun r listed history => (serves r listed history).1) registered found
  have plural : r.plural = Plural.ofKind r.kind := by
    have here : r.gvk.HasHistory := type ▸ history
    rw [(serves r listed here).2]
    exact (plural_of_hasHistory here).symm
  obtain ⟨location, located, rfl⟩ := Option.map_eq_some_iff.mp built
  rw [← plural] at address
  exact .at listed type space (type ▸ version) address built (Location.path_of_read located)

/-- What may be sent after a log: a change only for a workload that was read before. -/
def Justified (server : Server σ) (request : Request) (s : Session σ)
    (middle : Progress (Session σ)) (c : Catalog) (before : List HttpRequest) (r : HttpRequest) : Prop :=
  r.isPatch = true → ∃ h : Handle, (server.strategies.find? h.gvk.group h.gvk.kind).isSome ∧
    h.gvk.isPointer = false ∧ Aimed c h r ∧ server.Sourced request s middle before h

theorem justified_of_reads {r : HttpRequest} (reads : r.Reads) (before : List HttpRequest) :
    Justified server request s middle c before r := by
  intro patch
  rw [HttpRequest.isPatch_of_get reads.method] at patch
  contradiction

variable {console : Console σ} {format : OutputFormat} {o : Options} {given : List Handle}
  {base w w' : Session σ}

/-- A later moment of a run: its log goes on, with changes that are justified only. -/
structure Grown (server : Server σ) (request : Request) (s : Session σ)
    (middle : Progress (Session σ)) (c : Catalog) (base w : Session σ) : Prop where
  longer : base.requests <+: w.requests
  justified : Follows (Justified server request s middle c) w.requests
  known : w.catalog? = some c

theorem Grown.reads (grown : Grown server request s middle c base w)
    (extended : w.Extends HttpRequest.Reads w') : Grown server request s middle c base w' := by
  obtain ⟨⟨more, requests, reads⟩, known⟩ := extended
  refine ⟨grown.longer.trans ⟨more, requests.symm⟩, ?_, known c grown.known⟩
  rw [requests]
  exact grown.justified.append_of_forall fun r member => justified_of_reads (reads r member)

/-- What the calls of a phase send is justified if the objects that are rolled back were read before
it. -/
theorem closed_grown (serves : c.ServesWorkloads) (objects : ∀ h ∈ given, Served c h ∧
      (h.gvk.HasHistory → server.Sourced request s middle base.requests h)) :
    Closed (server.collaborators console.write format o.dryRun) o given
      fun _ w => Grown server request s middle c base w where
  verify before _ answered := before.reads (reads_verify answered)
  rollback {_ w w' h _ _} before member found _ answered := by
    have known := known_of_strategy found answered before.known
    obtain ⟨p, registered, rfl⟩ := server.procedure_of_find? found
    obtain ⟨served, sourced⟩ := objects h member
    have history := Gvk.hasHistory_of_mem registered
    obtain ⟨reads, onlyReads, requests⟩ := p.strategy_requests server h o.revision o.dryRun w
    rw [answered] at requests
    have read : Follows (Justified server request s middle c) (w.requests ++ reads) :=
      before.justified.append_of_forall fun r inside => justified_of_reads (onlyReads r inside)
    have longer : base.requests <+: w.requests ++ reads :=
      before.longer.trans (List.prefix_append _ _)
    -- a change is the last request of its rollback, so every object of the phase was read before it
    obtain requests | ⟨path, kind, body, change, place, -, built, requests⟩ := requests
    · exact ⟨requests ▸ longer, requests ▸ read, known⟩
    · rw [← List.append_assoc] at requests
      refine ⟨longer.trans ⟨[change], requests.symm⟩, ?_, known⟩
      rw [requests]
      exact read.snoc fun _ => ⟨h, Option.isSome_of_eq_some found, not_isPointer_of_hasHistory history,
        aimed_of_path served serves registered place built, (sourced history).later longer⟩
  print before answered := before.reads (reads_print answered)

theorem sourced_of_plans (plans : server.Plans request s c refs planned u)
    (member : h ∈ handles (planned.mapM server.fetchPlanned u).1.flatten) :
    Served c h ∧
      server.Sourced request s middle (planned.mapM server.fetchPlanned u).2.requests h := by
  obtain ⟨t, past, v, listed, inside, read, before⟩ := readFor_of_plans plans member
  exact ⟨server.served_of_fetchTarget (Plan.known_of_request plans.made listed) inside,
    .named read before⟩

/-- The workloads that are read for references are the ones that the pointers name. -/
theorem sourced_of_followUp {refs' : List Reference}
    {planned' : List (Except Failure PlannedTarget)} {u' : Session σ}
    (plans : server.Plans request s c refs planned u)
    (plans' : server.Plans (request.followUp middle.report.discovered) middle.world c refs' planned' u')
    (longer : (planned.mapM server.fetchPlanned u).2.requests <+: middle.world.requests)
    (pointers : ∀ ref ∈ middle.report.discovered,
      ∃ h ∈ handles (planned.mapM server.fetchPlanned u).1.flatten, classify h = .ok (.pointer ref))
    (serves : c.ServesWorkloads)
    (truthful : ∀ ref ∈ middle.report.discovered, ∀ t,
      Plan.ofWorkload c request.ns ref = .ok t → server.AnswersAs t)
    (member : h ∈ handles (planned'.mapM server.fetchPlanned u').1.flatten) :
    Served c h ∧ (h.gvk.HasHistory →
      server.Sourced request s middle (planned'.mapM server.fetchPlanned u').2.requests h) := by
  obtain ⟨t, past', v, listed, inside, followed, before'⟩ := readFor_of_plans plans' member
  refine ⟨server.served_of_fetchTarget (Plan.known_of_request plans'.made listed) inside,
    fun history => ?_⟩
  obtain rfl := plans'.nil_of_without rfl
  obtain rfl := Plan.planned_of_followUp plans'.made
  obtain ⟨ref, named, target⟩ := List.mem_map.mp listed
  obtain ⟨pointer, answered, classified⟩ := pointers ref named
  obtain ⟨t₀, past, -, -, -, read, before⟩ := readFor_of_plans plans answered
  have answers := truthful ref named t target
  unfold Plan.ofWorkload at target
  split at target
  · next r resource =>
    cases target
    obtain ⟨known, type⟩ := Catalog.mem_of_find? resource
    obtain ⟨o, document, -, rfl⟩ := server.handle_of_fetchTarget inside
    obtain ⟨name, space⟩ := answers ref.name rfl v _ inside
    have namespaced := (serves r known history).1
    have reads := server.onlyReads_resolve (request.followUp middle.report.discovered) middle.world
    have start := reads.isPrefix
    rw [plans'.resolve_eq] at start
    refine .pointed read ((before.trans longer).trans start) classified named followed before' type
      name ?_
    rw [space, ← (pointer_of_classify classified).2]
    simp [Plan.targetOf, namespaced]
  · cases target

theorem grown_afterDirect (plans : server.Plans request s c refs planned u) (serves : c.ServesWorkloads)
    (empty : s.requests = []) :
    Grown server request s middle c (server.resolve request s).2
      (afterDirect (server.collaborators console.write format o.dryRun) o request s
        (planned.mapM server.fetchPlanned u).1.flatten).world := by
  have known : (server.resolve request s).2.catalog? = some c := by
    rw [plans.resolve_eq]
    exact (Sends.mapM server.onlyReads_fetchPlanned planned u).known c plans.known
  obtain ⟨⟨sent, requests, reads⟩, -⟩ := server.onlyReads_resolve request s
  have start : Grown server request s middle c (server.resolve request s).2
      (server.resolve request s).2 := by
    refine ⟨List.prefix_rfl, ?_, known⟩
    rw [requests, empty]
    exact follows_nil.append_of_forall fun r member => justified_of_reads (reads r member)
  refine (closed_grown serves fun h member => ?_).afterDirect start
  obtain ⟨served, sourced⟩ := sourced_of_plans plans member
  refine ⟨served, fun _ => ?_⟩
  rw [plans.resolve_eq]
  exact sourced

theorem grown_afterBoth (console : Console σ) (format : OutputFormat) (o : Options)
    (plans : server.Plans request s c refs planned u)
    (serves : c.ServesWorkloads)
    (grown : Grown server request s middle c (server.resolve request s).2 middle.world)
    (pointers : ∀ ref ∈ middle.report.discovered,
      ∃ h ∈ handles (planned.mapM server.fetchPlanned u).1.flatten, classify h = .ok (.pointer ref))
    (truthful : ∀ ref ∈ middle.report.discovered, ∀ t,
      Plan.ofWorkload c request.ns ref = .ok t → server.AnswersAs t) :
    Follows (Justified server request s middle c)
      (afterBoth (server.collaborators console.write format o.dryRun) o request middle).world.requests := by
  unfold afterBoth
  split
  · exact grown.justified
  · have reads := server.onlyReads_resolve (request.followUp middle.report.discovered) middle.world
    have again := grown.reads reads
    -- the objects of this phase were read later than those of the first: it has a base of its own
    refine (Closed.secondPhase (fun _ w => Grown server request s middle c
      (server.resolve (request.followUp middle.report.discovered) middle.world).2 w)
        { again with longer := List.prefix_rfl } fun items answer => ?_).justified
    refine closed_grown serves fun h member => ?_
    obtain ⟨c', refs', planned', u', plans', rfl, -⟩ :=
      server.resolve_answered (Prod.ext answer rfl)
    obtain rfl : c = c' :=
      Option.some.inj ((plans'.learned.known grown.known).symm.trans plans'.known)
    have longer := grown.longer
    rw [plans.resolve_eq] at longer
    rw [plans'.resolve_eq]
    exact sourced_of_followUp plans plans' longer pointers serves truthful member

end Objects

def Server.between (server : Server σ) (console : Console σ) (format : OutputFormat) (o : Options)
    (request : Request) (s : Session σ) : Progress (Session σ) :=
  afterDirect (server.collaborators console.write format o.dryRun) o request s
    (itemsOf (server.resolve request s).1)

/-- Every change goes to the address of an object that was read before it: for the request, or for a
pointer that was read for the request. Only types with a strategy are changed, and no pointer is. -/
theorem Server.undo_changes_read (server : Server σ) (console : Console σ) (format : OutputFormat)
    (o : Options) (request : Request) (world : σ) (catalog? : Option Catalog)
    (manifests : Manifest.Source) :
    let start := Session.start world catalog? manifests
    let ended := server.undo console.write format o request start
    (∀ c, ended.world.catalog? = some c → c.ServesWorkloads ∧
      ∀ report, ended.result = .ok report → ∀ ref ∈ report.discovered, ∀ t,
        Plan.ofWorkload c request.ns ref = .ok t → server.AnswersAs t) →
    ∀ before change after, ended.world.requests = before ++ change :: after → change.isPatch = true →
      ∃ c h, ended.world.catalog? = some c ∧
        (server.strategies.find? h.gvk.group h.gvk.kind).isSome ∧ h.gvk.isPointer = false ∧
          Aimed c h change ∧
            server.Sourced request start (server.between console format o request start) before h := by
  intro start ended truthful before change after split patch
  obtain ⟨failure, u, refused, -⟩ | ⟨c, refs, planned, u, plans⟩ :=
    server.resolve_cases request start
  · obtain ⟨⟨sent, requests, reads⟩, -⟩ := server.onlyReads_resolve request start
    have whole : ended = ⟨.error failure, [.resolve request], (server.resolve request start).2⟩ :=
      run_of_unanswered (c := server.collaborators console.write format o.dryRun)
        (congrArg Prod.fst refused)
    have member : change ∈ sent := by
      have same : ended.world.requests = sent := by
        rw [whole]
        exact requests
      rw [← same, split]
      exact List.mem_append_right _ List.mem_cons_self
    rw [HttpRequest.isPatch_of_get (reads change member).method] at patch
    contradiction
  · have known : ended.world.catalog? = some c := known_of_plans plans
    obtain ⟨serves, answers⟩ := truthful c known
    have answered : (server.resolve request start).1 =
        .ok (planned.mapM server.fetchPlanned u).1.flatten := congrArg Prod.fst plans.resolve_eq
    have whole : ended = _ :=
      run_of_answered (c := server.collaborators console.write format o.dryRun) answered
    have between : server.between console format o request start = (afterDirect (server.collaborators
        console.write format o.dryRun) o request start
          (planned.mapM server.fetchPlanned u).1.flatten) := by
      rw [Server.between, answered, itemsOf]
    rw [between]
    have discovered (ref : WorkloadRef) (found : ref ∈ (afterDirect (server.collaborators console.write
        format o.dryRun) o request start (planned.mapM
          server.fetchPlanned u).1.flatten).report.discovered) (t : PlannedTarget) :=
      answers _ (congrArg Ended.result whole) ref (by rw [discovered_afterBoth]; exact found) t
    have justified := grown_afterBoth console format o plans serves (grown_afterDirect plans serves rfl)
      (fun ref found => pointer_of_discovered found) discovered
    rw [whole] at split
    obtain ⟨h, accepted, workload, aimed, sourced⟩ := justified before change after split patch
    exact ⟨c, h, known, accepted, workload, aimed, sourced⟩

namespace Daemons

def everyRollout : Request := request [.typed "rollout" none]

def unread : Session Unit := .start () (some ⟨[resource, rollouts]⟩) (.ofTree .empty [] [])

def followed : Ended (Session Unit) :=
  (server (pages "d")).undo Console.session.write .name ⟨.exact 1, .none⟩ everyRollout unread

end Daemons

theorem undo_changes_read_followed :
    ∃ before change, Daemons.followed.world.requests = before ++ [change] ∧
      before.map (fun r => r.location.path) = [(Daemons.rolloutsPage "d").1, Daemons.daemonPage.1,
        Daemons.revisionsPage.1] ∧
      change.isPatch = true ∧ change.location.path = Daemons.daemonPage.1 ∧
        ∃ c h, Daemons.followed.world.catalog? = some c ∧
          ((Daemons.server (Daemons.pages "d")).strategies.find? h.gvk.group h.gvk.kind).isSome ∧
            h.gvk.isPointer = false ∧ Aimed c h change ∧
              (Daemons.server (Daemons.pages "d")).Sourced Daemons.everyRollout Daemons.unread
                ((Daemons.server (Daemons.pages "d")).between Console.session .name ⟨.exact 1, .none⟩
                  Daemons.everyRollout Daemons.unread) before h := by
  have facts : Daemons.followed.world.catalog? = some ⟨[Daemons.resource, Daemons.rollouts]⟩ ∧
      Daemons.followed.result.toOption.map (fun report => report.discovered) =
        some [⟨Daemons.resource.gvk, some "ns", "d"⟩] ∧
      Daemons.followed.world.requests.map (fun r => (r.isPatch, r.location.path)) =
        [(false, (Daemons.rolloutsPage "d").1), (false, Daemons.daemonPage.1),
          (false, Daemons.revisionsPage.1)] ++ [(true, Daemons.daemonPage.1)] := by
    decide +kernel
  obtain ⟨known, found, requests⟩ := facts
  have serves : Catalog.ServesWorkloads ⟨[Daemons.resource, Daemons.rollouts]⟩ := by
    have all : ∀ r ∈ [Daemons.resource, Daemons.rollouts], (r.gvk.group, r.gvk.kind) ∈
        Procedure.allKinds → r.namespaced = true ∧ r.plural = Text.lowerCase r.kind ++ "s" := by
      decide +kernel
    exact all
  have truthful (c : Catalog) (same : Daemons.followed.world.catalog? = some c) :
      c.ServesWorkloads ∧ ∀ report, Daemons.followed.result = .ok report → ∀ ref ∈ report.discovered,
        ∀ t, Plan.ofWorkload c "ns" ref = .ok t →
          (Daemons.server (Daemons.pages "d")).AnswersAs t := by
    obtain rfl : _ = c := Option.some.inj (known.symm.trans same)
    refine ⟨serves, fun report ended ref member t planned => ?_⟩
    rw [ended] at found
    rw [show report.discovered = _ from Option.some.inj found, List.mem_singleton] at member
    subst member
    obtain rfl : Plan.targetOf Daemons.resource "ns" (some "d") = t := by
      have target : Plan.ofWorkload ⟨[Daemons.resource, Daemons.rollouts]⟩ "ns"
          ⟨Daemons.resource.gvk, some "ns", "d"⟩ =
            .ok (Plan.targetOf Daemons.resource "ns" (some "d")) := rfl
      exact Except.ok.inj (target.symm.trans planned)
    exact Server.answersAs_of_truthful (Daemons.truthful "d") List.mem_cons_self rfl (by decide)
      (by decide)
  have read := Server.undo_changes_read (Daemons.server (Daemons.pages "d")) Console.session .name
    ⟨.exact 1, .none⟩ Daemons.everyRollout () (some ⟨[Daemons.resource, Daemons.rollouts]⟩)
    (.ofTree .empty [] [])
  have start : Daemons.unread =
      .start () (some ⟨[Daemons.resource, Daemons.rollouts]⟩) (.ofTree .empty [] []) := rfl
  have run : Daemons.followed = (Daemons.server (Daemons.pages "d")).undo Console.session.write .name
    ⟨.exact 1, .none⟩ Daemons.everyRollout Daemons.unread := rfl
  dsimp only at read
  rw [← start, ← run] at read
  obtain ⟨before, last, split, reads, ends⟩ := List.map_eq_append_iff.mp requests
  obtain ⟨change, rfl, place⟩ := List.map_eq_singleton_iff.mp ends
  obtain ⟨patch, path⟩ := Prod.mk.inj place
  have paths := congrArg (List.map Prod.snd) reads
  rw [List.map_map] at paths
  exact ⟨before, change, split, paths, patch, path, read truthful before change [] split patch⟩

end Rollback
