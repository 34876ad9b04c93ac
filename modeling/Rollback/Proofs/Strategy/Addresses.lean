import Rollback.Proofs.Server.Answers
import Rollback.Proofs.Strategy.Requisites
import Rollback.Proofs.Strategy.Stages
import Rollback.Proofs.Text.Cut

/-! The paths to which workloads are changed. A workload that was read as one of a known resource is
changed at the path of its type, namespace and name, and paths of plain parts are different for
different workloads. -/
namespace Rollback

open Api Location

/-- The groups and kinds of all workloads that can be rolled back. -/
def Procedure.allKinds : List (String × String) :=
  [replicaSets, revisions .strategic, revisions .merge].flatMap kinds

/-- A type whose objects can be rolled back. -/
def Gvk.HasHistory (g : Gvk) : Prop := (g.group, g.kind) ∈ Procedure.allKinds

theorem Gvk.hasHistory_of_mem {g : Gvk} {p : Procedure} (registered : (g.group, g.kind) ∈ p.kinds) :
    g.HasHistory := by
  refine List.mem_flatMap.mpr ⟨p, ?_, registered⟩
  rcases p with _ | _ | _ <;> simp

/-- What a catalog is expected to say: each resource is served under its own group and version, and
workloads and the objects that point at them have namespaces. -/
structure Catalog.Regular (c : Catalog) : Prop where
  version : ∀ r ∈ c.entries, r.apiVersion = r.gvk.apiVersion ∧ IsPathPart r.version
  placed : ∀ r ∈ c.entries, r.gvk.isPointer = true ∨ r.gvk.HasHistory → r.namespaced = true

theorem Served.placed {c : Catalog} {h : Handle} (served : Served c h) (regular : c.Regular)
    (kind : h.gvk.isPointer = true ∨ h.gvk.HasHistory) : h.ns?.isSome := by
  obtain @⟨r, o, document, ns?, listed, given, placed⟩ := served
  have namespaced := regular.placed r listed kind
  have asked := placed namespaced
  cases own : o.metadata.textAt? ["namespace"] <;>
    simp [LiveObject.toHandle, namespaced, own, asked]

theorem ok_of_toOption {ε α : Type} {answer : Except ε α} {a : α} (found : answer.toOption = some a) :
    answer = .ok a := by
  cases answer with
  | error e => cases found
  | ok b =>
    cases found
    rfl

/-- A type whose objects have paths of plain parts. -/
structure Gvk.Addressable (g : Gvk) : Prop where
  grouped : g.group ≠ ""
  group : IsPathPart g.group
  version : IsPathPart g.version
  plural : IsPathPart (Plural.ofKind g.kind)

namespace RevisionRollback

variable {g g' : Gvk} {ns ns' name name' : String}

theorem addressable_of_hasHistory (history : g.HasHistory) (version : IsPathPart g.version) :
    g.Addressable := by
  have all : ∀ kind ∈ Procedure.allKinds,
      kind.1 ≠ "" ∧ IsPathPart kind.1 ∧ IsPathPart (Plural.ofKind kind.2) := by
    decide +kernel
  obtain ⟨grouped, group, plural⟩ := all _ history
  exact ⟨grouped, group, version, plural⟩

/-- The kind of a workload can be told from its group and plural. -/
theorem kind_of_plural (history : g.HasHistory) (history' : g'.HasHistory) (group : g.group = g'.group)
    (plural : Plural.ofKind g.kind = Plural.ofKind g'.kind) : g.kind = g'.kind := by
  have all : ∀ kind ∈ Procedure.allKinds, ∀ other ∈ Procedure.allKinds, kind.1 = other.1 →
      Plural.ofKind kind.2 = Plural.ofKind other.2 → kind.2 = other.2 := by
    decide +kernel
  exact all _ history _ history' group plural

theorem toList_workloadPath (grouped : g.group ≠ "") :
    (workloadPath g ns name).toList = "/apis/".toList ++ (g.group.toList ++ '/' :: (g.version.toList ++
      '/' :: ("namespaces".toList ++ '/' :: (ns.toList ++ '/' ::
        ((Plural.ofKind g.kind).toList ++ '/' :: name.toList))))) := by
  simp [workloadPath, resourcePath, Gvk.apiVersion, renderApiVersion, grouped, String.toList_append]

/-- The parts of a path can be told from it. -/
theorem parts_of_workloadPath (type : g.Addressable) (type' : g'.Addressable) (space : IsPathPart ns)
    (space' : IsPathPart ns') (same : workloadPath g ns name = workloadPath g' ns' name') :
    g.group = g'.group ∧ g.version = g'.version ∧ ns = ns' ∧
      Plural.ofKind g.kind = Plural.ofKind g'.kind ∧ name = name' := by
  have texts := congrArg String.toList same
  rw [toList_workloadPath type.grouped, toList_workloadPath type'.grouped] at texts
  obtain ⟨groups, texts⟩ :=
    Text.append_cons_inj type.group.1 type'.group.1 (List.append_cancel_left texts)
  obtain ⟨versions, texts⟩ := Text.append_cons_inj type.version.1 type'.version.1 texts
  obtain ⟨-, texts⟩ := List.cons.inj (List.append_cancel_left texts)
  obtain ⟨spaces, texts⟩ := Text.append_cons_inj space.1 space'.1 texts
  obtain ⟨plurals, names⟩ := Text.append_cons_inj type.plural.1 type'.plural.1 texts
  simp only [String.toList_inj] at groups versions spaces plurals names
  exact ⟨groups, versions, spaces, plurals, names⟩

/-- Different workloads with plain parts have different paths. -/
theorem workloadPath_inj (history : g.HasHistory) (history' : g'.HasHistory)
    (version : IsPathPart g.version) (version' : IsPathPart g'.version)
    (space : IsPathPart ns) (space' : IsPathPart ns')
    (same : workloadPath g ns name = workloadPath g' ns' name') : g = g' ∧ ns = ns' ∧ name = name' := by
  obtain ⟨group, sameVersion, spaces, plural, names⟩ :=
    parts_of_workloadPath (addressable_of_hasHistory history version)
      (addressable_of_hasHistory history' version') space space' same
  have kind := kind_of_plural history history' group plural
  cases g
  cases g'
  simp_all

/-- A path of plain parts is not cut off and has no query. -/
theorem pathPart_workloadPath (type : g.Addressable) (space : IsPathPart ns) (part : IsPathPart name) :
    '#' ∉ (workloadPath g ns name).toList ∧ '?' ∉ (workloadPath g ns name).toList := by
  rw [toList_workloadPath type.grouped]
  simp [type.group.2, type.plural.2, type.version.2, space.2, part.2]

end RevisionRollback

namespace Deployment

variable {v : Json} {deployment : Deployment}

theorem version_of_ofJson? (read : ofJson? v = some deployment) {text : String}
    (found : v.get? "apiVersion" = some (.string text)) : text = "apps/v1" := by
  obtain ⟨record, shaped, rfl⟩ := Option.map_eq_some_iff.mp read
  have decided := Schema.readField_of_read_record unique_fields shaped List.mem_cons_self
  rw [found, Schema.readField_of_read rfl] at decided
  by_contra other
  simp [Schema.read, other] at decided

end Deployment

/-- A workload that was read as one of a known resource is changed at the path of its type, namespace
and name. The version in the path is the one under which the resource is served, or the one of the
resource itself. -/
theorem Served.address {c : Catalog} {h : Handle} {p : Procedure} {path : String}
    (served : Served c h) (placed : ∀ r ∈ c.entries, r.gvk.HasHistory → r.namespaced = true)
    (registered : (h.gvk.group, h.gvk.kind) ∈ p.kinds) (found : p.path? h = some path) :
    ∃ r ∈ c.entries, r.gvk = h.gvk ∧ ∃ ns apiVersion, h.ns? = some ns ∧
      (apiVersion = r.apiVersion ∨ apiVersion = r.gvk.apiVersion) ∧
        path = resourcePath r.group apiVersion (Plural.ofKind r.kind) (some ns) ++ "/" ++ h.name := by
  obtain @⟨r, o, document, ns?, listed, given, -⟩ := served
  have namespaced := placed r listed (Gvk.hasHistory_of_mem registered)
  refine ⟨r, listed, rfl, ?_⟩
  cases p with
  | replicaSets =>
    obtain ⟨d, ready, rfl⟩ := Option.map_eq_some_iff.mp found
    obtain ⟨deployment, read, name, space, -⟩ :=
      DeploymentRollback.ready_eq_ok.mp (ok_of_toOption ready)
    have version : r.apiVersion = "apps/v1" :=
      Deployment.version_of_ofJson? read (LiveObject.apiVersion_toJson given)
    have named : d.name = (o.toHandle r ns?).name := by
      have own : deployment.metadata.name? = o.metadata.textAt? ["name"] :=
        (Deployment.name_of_ofJson? read).trans (LiveObject.textAt?_toJson given (by decide))
      rw [name, own]
      cases there : o.metadata.textAt? ["name"] <;> simp [LiveObject.toHandle, there]
    obtain ⟨group, kind⟩ : r.group = "apps" ∧ r.kind = "Deployment" := by
      simpa [Procedure.kinds, LiveObject.toHandle, Resource.gvk] using registered
    refine ⟨d.ns, r.apiVersion, space, .inl rfl, ?_⟩
    rw [DeploymentRollback.Ready.path, named, DeploymentRollback.appsPath, version, group, kind]
    rfl
  | revisions kind =>
    obtain ⟨place, coordinates, rfl⟩ := Option.map_eq_some_iff.mp found
    obtain ⟨space, name, -⟩ := RevisionRollback.coordinates_eq_ok.mp (ok_of_toOption coordinates)
    rw [LiveObject.toHandle, LiveObject.textAt?_toJson given (by decide)] at space name
    refine ⟨place.ns, r.gvk.apiVersion, ?_, .inr rfl, ?_⟩
    · simp [LiveObject.toHandle, namespaced, space]
    · simp [LiveObject.toHandle, name, RevisionRollback.workloadPath, Resource.gvk]

/-- In a regular catalog the two versions are one. -/
theorem Served.path_eq {c : Catalog} {h : Handle} {p : Procedure} {path : String}
    (served : Served c h) (regular : c.Regular) (registered : (h.gvk.group, h.gvk.kind) ∈ p.kinds)
    (found : p.path? h = some path) :
    ∃ ns, h.ns? = some ns ∧ path = RevisionRollback.workloadPath h.gvk ns h.name := by
  obtain ⟨r, listed, type, ns, apiVersion, space, version, rfl⟩ :=
    served.address (fun r listed history => regular.placed r listed (.inr history)) registered found
  refine ⟨ns, space, ?_⟩
  obtain rfl : apiVersion = r.gvk.apiVersion :=
    version.elim (fun same => same.trans (regular.version r listed).1) id
  rw [← type]
  rfl

end Rollback
