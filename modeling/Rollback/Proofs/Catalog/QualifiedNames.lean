import Rollback.Proofs.Catalog.Names
import Rollback.Server.Plan
import Mathlib.Data.List.Find

/-! The printed name of a reference can be typed back. It is read as one argument, whose type means the
resource that the server serves for the reference, in whatever group and at whatever version. -/
namespace Rollback

open Text

namespace WorkloadRef

/-- `Kind.version.group`. The core group has no name, so that its types end with a dot. -/
def typeName (r : WorkloadRef) : String := ".".intercalate [r.gvk.kind, r.gvk.version, r.gvk.group]

/-- A reference whose printed name can be taken apart again. -/
structure Typeable (r : WorkloadRef) : Prop where
  ascii : Ascii r.gvk.kind ∧ Ascii r.gvk.version ∧ Ascii r.gvk.group
  lowered : lowerCase r.gvk.version = r.gvk.version ∧ lowerCase r.gvk.group = r.gvk.group
  undotted : '.' ∉ r.gvk.kind.toList ∧ '.' ∉ r.gvk.version.toList
  unslashed : '/' ∉ r.gvk.kind.toList ∧ '/' ∉ r.gvk.version.toList ∧ '/' ∉ r.gvk.group.toList ∧
    '/' ∉ r.name.toList
  named : r.name ≠ ""

variable {r : WorkloadRef}

theorem toList_typeName (r : WorkloadRef) : r.typeName.toList =
    r.gvk.kind.toList ++ '.' :: (r.gvk.version.toList ++ '.' :: r.gvk.group.toList) := by
  simp [typeName]

theorem dotted_typeName (r : WorkloadRef) : '.' ∈ r.typeName.toList := by simp [toList_typeName]

/-- The printed name is one argument: its only slash stands before the name. -/
theorem Typeable.parse_qualifiedName (typeable : r.Typeable) :
    Argument.parse [r.qualifiedName] = .ok [.typed r.typeName (some r.name)] := by
  obtain ⟨kind, version, group, name⟩ := typeable.unslashed
  have whole : r.qualifiedName.toList = r.typeName.toList ++ '/' :: r.name.toList := by
    simp [qualifiedName, typeName]
  have unslashed : '/' ∉ r.typeName.toList := by simp [toList_typeName, kind, version, group]
  have parts : cut '/' r.qualifiedName = some (r.typeName, r.name) :=
    cut_eq_some.mpr ⟨unslashed, whole⟩
  have filled : r.typeName ≠ "" := by
    intro none
    have dotted := dotted_typeName r
    rw [none] at dotted
    cases dotted
  have target : Argument.parseSlashed r.qualifiedName = .ok (.typed r.typeName (some r.name)) := by
    simp [Argument.parseSlashed, parts, has, name, filled, typeable.named]
  have slashed : has '/' r.qualifiedName = true := by simp [has, whole]
  simp [Argument.parse, slashed, target]

/-- What is left of the version and the group after the name of the kind. -/
def qualifier (r : WorkloadRef) : String := r.gvk.version ++ "." ++ r.gvk.group

theorem Typeable.lowerCase_typeName (typeable : r.Typeable) :
    lowerCase r.typeName = lowerCase r.gvk.kind ++ "." ++ r.qualifier := by
  obtain ⟨kind, version, group⟩ := typeable.ascii
  have whole : Ascii r.typeName := by
    intro c member
    simp only [toList_typeName, List.mem_append, List.mem_cons] at member
    rcases member with inKind | rfl | inVersion | rfl | inGroup
    · exact kind c inKind
    · decide
    · exact version c inVersion
    · decide
    · exact group c inGroup
  have dot : lowerOne '.' = '.' := (lowerOne_eq_iff Resource.dot_beforeLetters '.').mpr rfl
  rw [← String.toList_inj, toList_lowerCase whole, toList_typeName, qualifier]
  simp only [List.map_append, List.map_cons, dot, ← toList_lowerCase kind, ← toList_lowerCase version,
    ← toList_lowerCase group, typeable.lowered.1, typeable.lowered.2, String.toList_append]
  simp

end WorkloadRef

namespace Catalog

variable {c : Catalog} {r : WorkloadRef} {e : Resource}

/-- When only one kind goes by a lower-case name, the resources of that name are those of the kind. -/
theorem atVersion?_qualifier (undotted : '.' ∉ r.gvk.version.toList)
    (only : ∀ other ∈ c.entries, other.group = r.gvk.group → other.version = r.gvk.version →
      other.hasName (lowerCase r.gvk.kind) = true → other.kind = r.gvk.kind) :
    c.atVersion? (lowerCase r.gvk.kind) r.qualifier = c.find? r.gvk := by
  have parts : cut '.' r.qualifier = some (r.gvk.version, r.gvk.group) :=
    cut_eq_some.mpr ⟨undotted, by simp [WorkloadRef.qualifier]⟩
  rw [atVersion?, parts, Option.bind_some, find?]
  apply List.find?_congr
  intro other listed
  rw [decide_eq_decide]
  constructor
  · rintro ⟨version, group, named⟩
    have kind := only other listed group version named
    cases gvk : r.gvk
    simp_all [Resource.gvk]
  · intro same
    rw [← same]
    exact ⟨rfl, rfl, by simp [Resource.hasName, Resource.gvk]⟩

theorem search_typeName (typeable : r.Typeable) (served : c.find? r.gvk = some e)
    (only : ∀ other ∈ c.entries, other.group = r.gvk.group → other.version = r.gvk.version →
      other.hasName (lowerCase r.gvk.kind) = true → other.kind = r.gvk.kind) :
    c.search (lowerCase r.typeName) = some e := by
  have undotted : '.' ∉ (lowerCase r.gvk.kind).toList := by
    rw [mem_lowerCase Resource.dot_beforeLetters]
    exact typeable.undotted.1
  have dotted : '.' ∈ (lowerCase r.typeName).toList := by
    rw [mem_lowerCase Resource.dot_beforeLetters]
    exact r.dotted_typeName
  have parts : cut '.' (lowerCase r.typeName) = some (lowerCase r.gvk.kind, r.qualifier) :=
    cut_eq_some.mpr ⟨undotted, by simp [typeable.lowerCase_typeName]⟩
  -- A type with dots is no short name, and its first dot stands behind the kind.
  rw [search_eq, ofShortName?_of_dotted c dotted, Option.none_or, ofQualifiedName?_of_cut parts,
    atVersion?_qualifier typeable.undotted.2 only, served, Option.some_or, Option.some_or]

/-- The printed name of a reference is one argument with the name of the workload, and its type means the
very resource that is served for the reference, so that the argument and the reference plan the same
target, provided that no other kind of the group and version goes by the lower-case name of the kind. -/
theorem resolve_qualifiedName (typeable : r.Typeable) (served : c.find? r.gvk = some e)
    (only : ∀ other ∈ c.entries, other.group = r.gvk.group → other.version = r.gvk.version →
      other.hasName (lowerCase r.gvk.kind) = true → other.kind = r.gvk.kind) :
    ∃ resource, Argument.parse [r.qualifiedName] = .ok [.typed resource (some r.name)] ∧
      c.resolve resource = .ok e ∧
        ∀ ns, Plan.ofArgument c (r.ns?.getD ns) (.typed resource (some r.name)) =
          Plan.ofArgument c ns (.workload r) := by
  have means : c.resolve r.typeName = .ok e :=
    resolve_eq_ok.mpr (search_typeName typeable served only)
  refine ⟨r.typeName, typeable.parse_qualifiedName, means, ?_⟩
  intro ns
  simp only [Plan.ofArgument, means, served]

end Catalog

/-! References to a stateful set at an old version of its group and to a map of the core group. -/
namespace Pointed

def maps : Resource := ⟨"", "v1", "ConfigMap", "configmaps", "v1", true, true, ["get"]⟩

def catalog : Catalog := ⟨[Named.advanced, maps, Named.older, Named.builtIn]⟩

def set : WorkloadRef := ⟨Named.older.gvk, some "shop", "web"⟩

def map : WorkloadRef := ⟨maps.gvk, none, "settings"⟩

theorem typeable_set : set.Typeable :=
  ⟨by decide +kernel, by decide +kernel, by decide +kernel, by decide +kernel, by decide⟩

theorem typeable_map : map.Typeable :=
  ⟨by decide +kernel, by decide +kernel, by decide +kernel, by decide +kernel, by decide⟩

def Alone (r : WorkloadRef) : Prop :=
  ∀ other ∈ catalog.entries, other.group = r.gvk.group → other.version = r.gvk.version →
    other.hasName (lowerCase r.gvk.kind) = true → other.kind = r.gvk.kind

theorem alone_set : Alone set := by unfold Alone; decide +kernel

theorem alone_map : Alone map := by unfold Alone; decide +kernel

end Pointed

theorem resolve_qualifiedName_pointed :
    Pointed.set.Typeable ∧ Pointed.map.Typeable ∧
      Pointed.catalog.find? Pointed.set.gvk = some Named.older ∧
      Pointed.catalog.find? Pointed.map.gvk = some Pointed.maps ∧
      Pointed.Alone Pointed.set ∧ Pointed.Alone Pointed.map ∧
      Pointed.set.qualifiedName = "StatefulSet.v1alpha1.apps.kruise.io/web" ∧
      Pointed.map.qualifiedName = "ConfigMap.v1./settings" ∧
      (∃ resource, Argument.parse [Pointed.set.qualifiedName] = .ok [.typed resource (some "web")] ∧
        Pointed.catalog.resolve resource = .ok Named.older) ∧
      ∃ resource, Argument.parse [Pointed.map.qualifiedName] = .ok [.typed resource (some "settings")] ∧
        Pointed.catalog.resolve resource = .ok Pointed.maps := by
  have served : Pointed.catalog.find? Pointed.set.gvk = some Named.older := by decide
  have served' : Pointed.catalog.find? Pointed.map.gvk = some Pointed.maps := by decide
  obtain ⟨resource, parsed, means, -⟩ :=
    Catalog.resolve_qualifiedName Pointed.typeable_set served Pointed.alone_set
  obtain ⟨resource', parsed', means', -⟩ :=
    Catalog.resolve_qualifiedName Pointed.typeable_map served' Pointed.alone_map
  exact ⟨Pointed.typeable_set, Pointed.typeable_map, served, served', Pointed.alone_set,
    Pointed.alone_map, by decide, by decide, ⟨resource, parsed, means⟩, ⟨resource', parsed', means'⟩⟩

end Rollback
