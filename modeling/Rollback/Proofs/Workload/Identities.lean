import Rollback.Proofs.Text.Cut
import Rollback.Workload.Handle

/-! The text of an identity holds what it was made of. Its parts are joined by slashes, so as long as none of
them but the name has one, they can be cut off one after the other, also where they are empty. -/
namespace Rollback

/-- No slash stands in what is put in front of the name. -/
structure Identity.Unslashed (gvk : Gvk) (ns? : Option String) : Prop where
  group : '/' ∉ gvk.group.toList
  version : '/' ∉ gvk.version.toList
  kind : '/' ∉ gvk.kind.toList
  ns : ∀ ns ∈ ns?, '/' ∉ ns.toList

/-- Type, namespace and name of an object. No namespace and the empty one are the same. -/
def Handle.coordinates (h : Handle) : Gvk × String × String := (h.gvk, h.ns?.getD "", h.name)

/-- Type, namespace and name of the object that is referred to. -/
def WorkloadRef.coordinates (r : WorkloadRef) : Gvk × String × String :=
  (r.gvk, r.ns?.getD "", r.name)

/-- What has been seen when the identities have been observed one after the other. -/
def Seen.ofAll (ids : List Identity) : Seen := ids.foldl (fun s id => (s.observe id).2) .empty

namespace Identity

variable {gvk gvk' : Gvk} {ns? ns?' : Option String} {name name' : String}

theorem Unslashed.space (plain : Unslashed gvk ns?) : '/' ∉ (ns?.getD "").toList := by
  cases ns? with
  | none => simp
  | some ns => exact plain.ns ns rfl

theorem toList_of (gvk : Gvk) (ns? : Option String) (name : String) :
    (Identity.of gvk ns? name).text.toList = gvk.group.toList ++ '/' :: (gvk.version.toList ++
      '/' :: (gvk.kind.toList ++ '/' :: ((ns?.getD "").toList ++ '/' :: name.toList))) := by
  simp [Identity.of]

theorem parts_of_same (plain : Unslashed gvk ns?) (plain' : Unslashed gvk' ns?')
    (same : Identity.of gvk ns? name = .of gvk' ns?' name') :
    gvk = gvk' ∧ ns?.getD "" = ns?'.getD "" ∧ name = name' := by
  have texts := congrArg (fun id : Identity => id.text.toList) same
  simp only [toList_of] at texts
  obtain ⟨groups, texts⟩ := Text.append_cons_inj plain.group plain'.group texts
  obtain ⟨versions, texts⟩ := Text.append_cons_inj plain.version plain'.version texts
  obtain ⟨kinds, texts⟩ := Text.append_cons_inj plain.kind plain'.kind texts
  obtain ⟨spaces, names⟩ := Text.append_cons_inj plain.space plain'.space texts
  rw [String.toList_inj] at groups versions kinds spaces names
  refine ⟨?_, spaces, names⟩
  cases gvk
  cases gvk'
  rw [Gvk.mk.injEq]
  exact ⟨groups, versions, kinds⟩

theorem same_iff (plain : Unslashed gvk ns?) (plain' : Unslashed gvk' ns?') :
    Identity.of gvk ns? name = .of gvk' ns?' name' ↔
      gvk = gvk' ∧ ns?.getD "" = ns?'.getD "" ∧ name = name' := by
  constructor
  · intro same
    exact parts_of_same plain plain' same
  · rintro ⟨rfl, spaces, rfl⟩
    rw [Identity.of, spaces, ← Identity.of]

end Identity

namespace Seen

variable {ids : List Identity} {id : Identity}

theorem contains_foldl (s : Seen) (ids : List Identity) (id : Identity) :
    (ids.foldl (fun s id => (s.observe id).2) s).contains id = true ↔
      id ∈ ids ∨ s.contains id = true := by
  induction ids generalizing s with
  | nil => simp
  | cons first rest ih =>
    rw [List.foldl_cons, ih, contains_observe, Bool.or_eq_true, beq_iff_eq, List.mem_cons]
    exact or_left_comm.trans or_assoc.symm

theorem contains_ofAll : (ofAll ids).contains id = true ↔ id ∈ ids := by
  simp [ofAll, contains_foldl]

theorem new_iff : ((ofAll ids).observe id).1 = true ↔ id ∉ ids := by
  rw [observe_fst, Bool.not_eq_true', ← Bool.not_eq_true, contains_ofAll]

end Seen

/-- Two identities without slashes in front of their names are equal just when type, namespace and name are,
where no namespace counts as the empty one. So an object and a reference have the same identity just when
they have the same coordinates, and an object is new after any references just when none of them has its
coordinates. -/
theorem Identity.collision_free :
    (∀ gvk ns? name gvk' ns?' name', Unslashed gvk ns? → Unslashed gvk' ns?' →
      (Identity.of gvk ns? name = .of gvk' ns?' name' ↔
        gvk = gvk' ∧ ns?.getD "" = ns?'.getD "" ∧ name = name')) ∧
    (∀ (h : Handle) (r : WorkloadRef), Unslashed h.gvk h.ns? → Unslashed r.gvk r.ns? →
      (h.identity = r.identity ↔ h.coordinates = r.coordinates)) ∧
    ∀ (h : Handle) (refs : List WorkloadRef), Unslashed h.gvk h.ns? → (∀ r ∈ refs, Unslashed r.gvk r.ns?) →
      (((Seen.ofAll (refs.map WorkloadRef.identity)).observe h.identity).1 = true ↔
        ∀ r ∈ refs, h.coordinates ≠ r.coordinates) := by
  have agree (h : Handle) (r : WorkloadRef) (plain : Unslashed h.gvk h.ns?)
      (plain' : Unslashed r.gvk r.ns?) :
      h.identity = r.identity ↔ h.coordinates = r.coordinates := by
    rw [Handle.identity, WorkloadRef.identity, same_iff plain plain']
    simp [Handle.coordinates, WorkloadRef.coordinates]
  refine ⟨fun _ _ _ _ _ _ plain plain' => same_iff plain plain', agree, ?_⟩
  intro h refs plain plains
  rw [Seen.new_iff, List.mem_map, not_exists]
  constructor
  · intro new r member same
    exact new r ⟨member, ((agree h r plain (plains r member)).mpr same).symm⟩
  · rintro different r ⟨member, same⟩
    exact different r member ((agree h r plain (plains r member)).mp same.symm)

/-! A node of the core group with a slash in its name, a reference to it in the empty namespace, and a
reference to another one whose namespace and name are the two parts of that name. -/
namespace Identity.Bare

def type : Gvk := ⟨"", "v1", "Node"⟩

def node : Handle := ⟨type, none, "a/b", .null⟩

def ref : WorkloadRef := ⟨type, some "", "a/b"⟩

def other : WorkloadRef := ⟨type, some "a", "b"⟩

theorem unslashed : Unslashed type none := ⟨by decide, by decide, by decide, nofun⟩

theorem unslashed_ref : Unslashed type ref.ns? :=
  ⟨by decide, by decide, by decide, by rintro _ ⟨⟩; decide⟩

theorem unslashed_other : Unslashed type other.ns? :=
  ⟨by decide, by decide, by decide, by rintro _ ⟨⟩; decide⟩

end Identity.Bare

theorem Identity.collision_free_bare :
    Unslashed Bare.type none ∧ Unslashed Bare.type Bare.ref.ns? ∧ Unslashed Bare.type Bare.other.ns? ∧
      Identity.of Bare.type none "a/b" = .of Bare.type (some "") "a/b" ∧
      Bare.node.identity = Bare.ref.identity ∧ Bare.node.identity ≠ Bare.other.identity ∧
      ((Seen.ofAll [Bare.other.identity]).observe Bare.node.identity).1 = true ∧
      ((Seen.ofAll [Bare.ref.identity, Bare.other.identity]).observe Bare.node.identity).1 = false := by
  obtain ⟨same, agree, new⟩ := collision_free
  have alone : ∀ r ∈ [Bare.other], Unslashed r.gvk r.ns? :=
    List.forall_mem_cons.mpr ⟨Bare.unslashed_other, List.forall_mem_nil _⟩
  have both : ∀ r ∈ [Bare.ref, Bare.other], Unslashed r.gvk r.ns? :=
    List.forall_mem_cons.mpr ⟨Bare.unslashed_ref, alone⟩
  refine ⟨Bare.unslashed, Bare.unslashed_ref, Bare.unslashed_other, ?_, ?_, ?_, ?_, ?_⟩
  · exact (same _ _ _ _ _ _ Bare.unslashed Bare.unslashed_ref).mpr ⟨rfl, rfl, rfl⟩
  · exact (agree Bare.node Bare.ref Bare.unslashed Bare.unslashed_ref).mpr rfl
  · rw [Ne, agree Bare.node Bare.other Bare.unslashed Bare.unslashed_other]
    decide
  · exact (new Bare.node [Bare.other] Bare.unslashed alone).mpr (by decide)
  · rw [Bool.eq_false_iff]
    intro seen
    exact (new Bare.node [Bare.ref, Bare.other] Bare.unslashed both).mp seen Bare.ref List.mem_cons_self rfl

end Rollback
