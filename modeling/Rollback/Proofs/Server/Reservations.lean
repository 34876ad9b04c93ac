import Rollback.Proofs.Server.Answers

/-! The answer to a request for found workloads: one item for each reference, in order. An object has
the identity that was reserved for its reference just when the reference names the namespace in which
the object is looked for; otherwise one workload goes by two identities. -/
namespace Rollback

variable {σ : Type} {c : Catalog} {ns : String} {ref : WorkloadRef}

/-- Two identities of one type and name are equal just when their namespaces are. -/
theorem Identity.of_eq_iff (gvk : Gvk) (name : String) (ns? ns?' : Option String) :
    Identity.of gvk ns? name = .of gvk ns?' name ↔ ns?.getD "" = ns?'.getD "" := by
  refine ⟨fun same => ?_, fun same => by rw [Identity.of, same, ← Identity.of]⟩
  have texts := congrArg (fun id : Identity => id.text.toList) same
  exact String.toList_inj.mp (by
    simpa [Identity.of, String.toList_intercalate, List.intercalate, List.intersperse] using texts)

/-- Asked for the object of a target, the server gives one that has the name and says nothing of another
namespace. -/
def Server.TruthfulAbout (server : Server σ) (t : PlannedTarget) : Prop :=
  ∀ name, t.name? = some name → ∀ (what : String) (s : Session σ) (o : LiveObject),
    ((server.fetch what (HttpRequest.getAt (t.path ++ "/" ++ name)) LiveObject.ofJson?).run s).1 =
      .ok o →
    o.metadata.textAt? ["name"] = some name ∧
      ∀ space, t.ns?.isSome → o.metadata.textAt? ["namespace"] = some space → t.ns? = some space

namespace Plan

/-- The namespace in which a reference is looked for, if the resource has namespaces: its own, or else
the one of the request. -/
def placeOf (r : Resource) (ns : String) (ref : WorkloadRef) : Option String :=
  if r.namespaced then some (ref.ns?.getD ns) else none

/-- What may answer a reference. -/
inductive AnswersRef (c : Catalog) (ns : String) (ref : WorkloadRef) : Fetched → Prop where
  | unserved (absent : c.find? ref.gvk = none) :
      AnswersRef c ns ref (.error (.fetch ref.qualifiedName (CatalogFault.notServed ref.gvk).cause))
  | failed {r : Resource} (served : c.find? ref.gvk = some r) (cause : Cause) :
      AnswersRef c ns ref (.error (.fetch (targetOf r ns (some ref.name)).label cause))
  | found {r : Resource} {h : Handle} (served : c.find? ref.gvk = some r)
      (identity : h.identity = .of ref.gvk (placeOf r ns ref) ref.name)
      (reserved : h.identity = ref.identity ↔ (placeOf r ns ref).getD "" = ref.ns?.getD "") :
      AnswersRef c ns ref (.ok h)

end Plan

namespace Server

variable {server : Server σ} {s u : Session σ}

/-- A reference is answered with one item. -/
theorem answersRef_of_fetchPlanned
    (gives : ∀ t, Plan.ofWorkload c ns ref = .ok t → server.TruthfulAbout t) (s : Session σ) :
    ∃ item, (fetchPlanned server (Plan.ofWorkload c ns ref) s).1 = [item] ∧
      Plan.AnswersRef c ns ref item := by
  unfold Plan.ofWorkload at gives ⊢
  cases served : c.find? ref.gvk with
  | none => exact ⟨_, rfl, .unserved served⟩
  | some r =>
    have given := gives (Plan.targetOf r (ref.ns?.getD ns) (some ref.name)) (by rw [served])
    simp only [fetchPlanned]
    rw [server.fetchTarget_one rfl]
    split
    · next o fetched =>
      obtain ⟨name, space⟩ := given ref.name rfl _ s o fetched
      refine ⟨_, rfl, ?_⟩
      have type : r.gvk = ref.gvk := (Catalog.mem_of_find? served).2
      have place : (o.toHandle r (Plan.targetOf r (ref.ns?.getD ns) (some ref.name)).ns?).ns? =
          Plan.placeOf r ns ref := by
        cases namespaced : r.namespaced with
        | false => simp [LiveObject.toHandle, Plan.placeOf, namespaced]
        | true =>
          simp only [Plan.targetOf, namespaced, if_true, Option.isSome_some, forall_const,
            Option.some.injEq] at space
          simp only [LiveObject.toHandle, Plan.targetOf, Plan.placeOf, namespaced, if_true]
          cases own : o.metadata.textAt? ["namespace"] with
          | none => rfl
          | some text => rw [space text own]; rfl
      have identity : (o.toHandle r (Plan.targetOf r (ref.ns?.getD ns) (some ref.name)).ns?).identity =
          .of ref.gvk (Plan.placeOf r ns ref) ref.name := by
        rw [Handle.identity, place, ← type]
        simp [LiveObject.toHandle, name]
      refine .found served identity ?_
      rw [Plan.targetOf] at identity ⊢
      rw [identity, WorkloadRef.identity, Identity.of_eq_iff]
    · next cause fetched => exact ⟨_, rfl, .failed served cause⟩

theorem answersRef_of_fetchAll {refs : List WorkloadRef}
    (gives : ∀ ref ∈ refs, ∀ t, Plan.ofWorkload c ns ref = .ok t → server.TruthfulAbout t) (s : Session σ) :
    List.Forall₂ (Plan.AnswersRef c ns) refs
      ((refs.map (Plan.ofWorkload c ns)).mapM (fetchPlanned server) s).1.flatten := by
  induction refs generalizing s with
  | nil => exact .nil
  | cons ref rest ih =>
    obtain ⟨first, later⟩ := List.forall_mem_cons.mp gives
    obtain ⟨item, one, answers⟩ := answersRef_of_fetchPlanned first s
    rw [List.map_cons, mapM_cons_apply, List.flatten_cons, one]
    exact .cons answers (ih later _)

/-- A request for found workloads can be planned when it is known what the server serves. -/
theorem plans_followUp (server : Server σ) (request : Request) {refs : List WorkloadRef}
    (nonempty : refs ≠ []) (known : (catalog server).run s = (.ok c, u)) :
    server.Plans (request.followUp refs) s c [] (refs.map (Plan.ofWorkload c request.ns)) u := by
  refine ⟨⟨s, rfl, known⟩, ?_⟩
  have asked : (request.followUp refs).isEmpty = false := by
    cases refs with
    | nil => exact absurd rfl nonempty
    | cons ref rest => rfl
  have args := Plan.mapM_workloads c request.ns refs
  unfold Plan.ofRequest
  rw [asked]
  simp only [Request.followUp, args]
  exact congrArg Except.ok (List.append_nil _)

/-- A request for found workloads is answered with one item for each of them, in order: a failure to
fetch it, or the object of that type and name in the namespace in which it was looked for. The object
has the identity of the reference just when this is the namespace of the reference. -/
theorem resolve_followUp (server : Server σ) (request : Request) {refs : List WorkloadRef}
    (nonempty : refs ≠ []) (known : (catalog server).run s = (.ok c, u))
    (gives : ∀ ref ∈ refs, ∀ t, Plan.ofWorkload c request.ns ref = .ok t → server.TruthfulAbout t) :
    ∃ items t, server.resolve (request.followUp refs) s = (.ok items, t) ∧
      List.Forall₂ (Plan.AnswersRef c request.ns) refs items :=
  ⟨_, _, (plans_followUp server request nonempty known).resolve_eq, answersRef_of_fetchAll gives u⟩

end Server

/-! A server on which every object is named `d`. It serves fleets without namespaces, and deployments. -/
namespace Fleets

def fleets : Resource :=
  ⟨"example.com", "v1", "Fleet", "fleets", "example.com/v1", false, true, ["get"]⟩

def deployments : Resource :=
  ⟨"apps", "v1", "Deployment", "deployments", "apps/v1", true, true, ["get"]⟩

def page : List UInt8 :=
  "\x7b\"metadata\":\x7b\"name\":\"d\"\x7d\x7d".toList.map fun c => c.toNat.toUInt8

def server : Server Unit where
  send _ := pure (.answer 200 page)
  settings := .ofEnvironment []

def session : Session Unit := .start () (some ⟨[fleets, deployments]⟩) (.ofTree .empty [] [])

def request : Request := ⟨"ns", false, [], [], false⟩

def named (gvk : Gvk) (ns? : Option String) : WorkloadRef := ⟨gvk, ns?, "d"⟩

/-- References to a fleet, to deployments with and without a namespace, and to a type that is not
served. -/
def refs : List WorkloadRef :=
  [named fleets.gvk (some "ns"), named deployments.gvk (some "ns"), named deployments.gvk none,
    named ⟨"apps", "v1beta2", "Deployment"⟩ (some "ns")]

/-- The identities of the objects that answer references. -/
def found (refs : List WorkloadRef) : Option (List (Option String)) :=
  (server.resolve (request.followUp refs) session).1.toOption.map fun items =>
    items.map fun item => item.toOption.map fun h => h.identity.text

theorem truthfulAbout {t : PlannedTarget} (name : t.name? = some "d") : server.TruthfulAbout t := by
  intro asked same what s o fetched
  obtain rfl := Option.some.inj (name.symm.trans same)
  obtain ⟨r, status, body, text, document, _, reply, decoded, given, read⟩ :=
    server.answer_of_fetch (Prod.ext fetched rfl)
  cases reply
  have metadata : (((replyText 200 page).toOption.bind Json.ofText?).bind LiveObject.ofJson?).map
      (fun o => (o.metadata.textAt? ["name"], o.metadata.textAt? ["namespace"])) =
        some (some "d", none) := by decide +kernel
  rw [decoded] at metadata
  simp only [Except.toOption, Option.bind_some, given, read, Option.map_some, Option.some.injEq,
    Prod.mk.injEq] at metadata
  exact ⟨metadata.1, fun space _ own => by rw [metadata.2] at own; cases own⟩

theorem truthfulAbout_refs (ref : WorkloadRef) (member : ref ∈ refs) (t : PlannedTarget)
    (planned : Plan.ofWorkload ⟨[fleets, deployments]⟩ request.ns ref = .ok t) : server.TruthfulAbout t := by
  have name : ref.name = "d" := by
    simp only [refs, List.mem_cons, List.not_mem_nil, or_false] at member
    rcases member with rfl | rfl | rfl | rfl <;> rfl
  unfold Plan.ofWorkload at planned
  split at planned
  · cases planned
    exact truthfulAbout (congrArg some name)
  · cases planned

end Fleets

theorem resolve_followUp_fleets :
    Fleets.found Fleets.refs = some [some "example.com/v1/Fleet//d",
        some "apps/v1/Deployment/ns/d", some "apps/v1/Deployment/ns/d", none] ∧
      ∃ items t, Fleets.server.resolve (Fleets.request.followUp Fleets.refs) Fleets.session =
          (.ok items, t) ∧
        List.Forall₂ (Plan.AnswersRef ⟨[Fleets.fleets, Fleets.deployments]⟩ "ns") Fleets.refs items :=
  ⟨by decide +kernel, Fleets.server.resolve_followUp Fleets.request (List.cons_ne_nil _ _)
    (Fleets.server.catalog_of_known rfl) Fleets.truthfulAbout_refs⟩

/-- The object that a reference means can have another identity than the one that was reserved: when
its resource has no namespaces, and when the reference has none. -/
theorem identities_unreserved :
    Fleets.found [Fleets.named Fleets.fleets.gvk (some "ns")] =
        some [some "example.com/v1/Fleet//d"] ∧
      (Fleets.named Fleets.fleets.gvk (some "ns")).identity.text = "example.com/v1/Fleet/ns/d" ∧
      Fleets.found [Fleets.named Fleets.deployments.gvk none] =
        some [some "apps/v1/Deployment/ns/d"] ∧
      (Fleets.named Fleets.deployments.gvk none).identity.text = "apps/v1/Deployment//d" ∧
      ∀ ref ∈ Fleets.refs, ∀ t,
        Plan.ofWorkload ⟨[Fleets.fleets, Fleets.deployments]⟩ "ns" ref = .ok t →
          Fleets.server.TruthfulAbout t :=
  ⟨by decide +kernel, by decide, by decide +kernel, by decide, Fleets.truthfulAbout_refs⟩

end Rollback
