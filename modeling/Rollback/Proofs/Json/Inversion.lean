import Rollback.Proofs.Json.Paths

/-! The merge patch between two documents undoes their difference: it has a member for just those keys
in which they differ, and a document without null members is what it leads to. -/
namespace Rollback.Json

variable {source target : Json} {members : Members}

/-- No member of an object is null, at any depth of objects within objects. -/
def NullFree (v : Json) : Prop := ∀ path, path ≠ [] → v.at? path ≠ some .null

theorem NullFree.of_not_object {v : Json} (value : v.isObject = false) : v.NullFree := by
  intro path nonempty
  cases path with
  | nil => exact absurd rfl nonempty
  | cons key path =>
    cases v with
    | object members => cases value
    | _ => simp [at?, get?]

theorem NullFree.object (inside : ∀ member ∈ members, member.2 ≠ .null ∧ member.2.NullFree) :
    (Json.object members).NullFree := by
  intro path nonempty null
  cases path with
  | nil => exact nonempty rfl
  | cons key path =>
    obtain ⟨v, found, below⟩ := Option.bind_eq_some_iff.mp null
    obtain ⟨present, free⟩ := inside _ (mem_of_lookup found)
    cases path with
    | nil => exact present (Option.some.inj below)
    | cons next path => exact free _ (List.cons_ne_nil _ _) below

/-- No null stands in the way of the patch to a document without null members. -/
theorem same_patched_of_nullFree (left : source.Sorted) (right : target.Sorted)
    (free : target.NullFree) : Same (patched source target) target := by
  apply same_of_view _ _ (sorted_patched _ _ left right) right
  intro path
  apply view_patched _ _ left right
  intro before nonempty _ null
  exact absurd null (free before nonempty)

theorem isSome_differing (old? new? : Option Json) :
    (differing old? new?).isSome = true ↔ ¬ Option.Rel Same old? new? := by
  cases old? with
  | none => cases new? <;> simp [differing]
  | some old =>
    cases new? with
    | none => simp [differing]
    | some new =>
      simp only [differing, Option.rel_some_some, Same, same_comm old new]
      cases same new old <;> simp

theorem get?_diff (left : source.Sorted) (right : target.Sorted) (old : source.isObject = true)
    (new : target.isObject = true) (key : String) :
    (diff source target).get? key = differing (source.get? key) (target.get? key) := by
  obtain ⟨as, rfl⟩ := object_of_isObject old
  obtain ⟨bs, rfl⟩ := object_of_isObject new
  exact lookup_patchMembers (Sorted.object_iff.mp left).1 (Sorted.object_iff.mp right).1 key

theorem eq_nil_of_lookup (none : ∀ key, lookup key members = none) : members = [] := by
  cases members with
  | nil => rfl
  | cons member rest => simpa [lookup] using none member.1

theorem same_iff_get? (left : source.Sorted) (right : target.Sorted) (old : source.isObject = true)
    (new : target.isObject = true) :
    Same source target ↔ ∀ key, Option.Rel Same (source.get? key) (target.get? key) := by
  constructor
  · exact get?_of_same
  · intro equal
    obtain ⟨as, rfl⟩ := object_of_isObject old
    obtain ⟨bs, rfl⟩ := object_of_isObject new
    exact sameMembers_of_lookup (Sorted.object_iff.mp left).1 (Sorted.object_iff.mp right).1 equal

/-- The patch between two objects is empty just when they are equal. -/
theorem diff_eq_empty_iff (left : source.Sorted) (right : target.Sorted)
    (old : source.isObject = true) (new : target.isObject = true) :
    diff source target = .object [] ↔ Same source target := by
  have differs (key : String) : (diff source target).get? key = none ↔
      Option.Rel Same (source.get? key) (target.get? key) := by
    rw [get?_diff left right old new, ← Option.not_isSome_iff_eq_none, isSome_differing, not_not]
  rw [same_iff_get? left right old new]
  constructor
  · intro empty key
    rw [← differs key, empty]
    rfl
  · intro equal
    obtain ⟨patch, isPatch⟩ : ∃ patch, diff source target = .object patch := by
      obtain ⟨as, rfl⟩ := object_of_isObject old
      obtain ⟨bs, rfl⟩ := object_of_isObject new
      exact ⟨_, rfl⟩
    rw [isPatch] at differs ⊢
    rw [eq_nil_of_lookup fun key => (differs key).mpr (equal key)]

end Rollback.Json
