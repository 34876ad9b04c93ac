import Rollback.History.Template
import Rollback.Proofs.Json.Paths

/-! Templates are compared but for one place, the label that a controller adds: they agree when what
stands at every other path has one shape in both. -/
namespace Rollback.Template

open Json

/-- Where the label stands that is left out of comparisons. -/
def hashPath : List String := ["metadata", "labels", hashLabel]

theorem lookup_updateMember (key k : String) (change : Json → Json) (members : Members) :
    lookup k (members.map fun (l, v) => if l = key then (l, change v) else (l, v)) =
      if k = key then (lookup k members).map change else lookup k members := by
  induction members with
  | nil => simp [lookup]
  | cons member rest ih =>
    obtain ⟨l, v⟩ := member
    by_cases here : l = key
    · by_cases found : l = k
      · subst here found
        simp [lookup]
      · simpa [lookup, here, here ▸ found] using ih
    · by_cases found : l = k
      · subst found
        simp [lookup, here]
      · simpa [lookup, here, found] using ih

theorem get?_updateMember (key k : String) (change : Json → Json) (v : Json) :
    (updateMember key change v).get? k = if k = key then (v.get? k).map change else v.get? k := by
  cases v with
  | object members => exact lookup_updateMember key k change members
  | _ => simp [updateMember, get?]

theorem get?_withoutMember (key k : String) (v : Json) :
    (withoutMember key v).get? k = if key = k then none else v.get? k := by
  cases v with
  | object members => exact lookup_erase key members
  | _ => simp [withoutMember, get?]

theorem isNull_updateMember (key : String) (change : Json → Json) (v : Json) :
    (updateMember key change v).isNull = v.isNull := by
  cases v <;> rfl

theorem isNull_withoutMember (key : String) (v : Json) : (withoutMember key v).isNull = v.isNull := by
  cases v <;> rfl

theorem get?_withoutHash (template : Json) (key : String) (other : key ≠ "metadata") :
    (withoutHash template).get? key = template.get? key := by
  rw [withoutHash, get?_updateMember, if_neg other]

theorem view_withoutMember (key : String) (v : Json) (path : List String) :
    (withoutMember key v).view path = if [key] <+: path then none else v.view path := by
  cases path with
  | nil => cases v <;> rfl
  | cons k path =>
    rw [view_cons, view_cons, get?_withoutMember]
    by_cases same : key = k
    · simp [same]
    · simp [same]

/-- If a change takes away what stands below a path, then so does the change of a member. -/
theorem view_updateMember {change : Json → Json} {inner : List String}
    (cuts : ∀ v path, (change v).view path = if inner <+: path then none else v.view path)
    (key : String) (v : Json) (path : List String) :
    (updateMember key change v).view path = if key :: inner <+: path then none else v.view path := by
  cases path with
  | nil => cases v <;> rfl
  | cons k path =>
    rw [view_cons, view_cons, get?_updateMember]
    by_cases same : k = key
    · subst same
      cases v.get? k with
      | none => simp
      | some inside => simp [cuts]
    · simp [same, Ne.symm same]

theorem view_withoutHash (template : Json) (path : List String) :
    (withoutHash template).view path = if hashPath <+: path then none else template.view path :=
  view_updateMember (view_updateMember (view_withoutMember hashLabel) "labels") "metadata" template path

theorem sorted_withoutMember {v : Json} (sorted : v.Sorted) (key : String) :
    (withoutMember key v).Sorted := by
  cases v with
  | object members => exact sorted.erase key
  | _ => exact sorted

theorem keysIncrease_updateMember {members : Members} (ordered : KeysIncrease members) (key : String)
    (change : Json → Json) :
    KeysIncrease (members.map fun (k, v) => if k = key then (k, change v) else (k, v)) := by
  have keys : (members.map fun (k, v) => if k = key then (k, change v) else (k, v)).map (·.1) =
      members.map (·.1) := by
    rw [List.map_map]
    refine List.map_congr_left fun member _ => ?_
    simp only [Function.comp_apply]
    split <;> rfl
  rw [KeysIncrease, keys]
  exact ordered

theorem sorted_updateMember {change : Json → Json} (keeps : ∀ v, v.Sorted → (change v).Sorted)
    (key : String) {v : Json} (sorted : v.Sorted) : (updateMember key change v).Sorted := by
  cases v with
  | object members =>
    obtain ⟨ordered, inside⟩ := Sorted.object_iff.mp sorted
    refine Sorted.object_iff.mpr
      ⟨keysIncrease_updateMember ordered key change, fun member present => ?_⟩
    obtain ⟨source, member', rfl⟩ := List.mem_map.mp present
    dsimp only
    split
    · exact keeps _ (inside source member')
    · exact inside source member'
  | _ => exact sorted

theorem sorted_withoutHash {template : Json} (sorted : template.Sorted) :
    (withoutHash template).Sorted :=
  sorted_updateMember (fun _ sorted => sorted_updateMember
    (fun _ sorted => sorted_withoutMember sorted hashLabel) "labels" sorted) "metadata" sorted

/-- Templates agree when at every path but those of the label they have one shape. -/
theorem agree_iff {a b : Json} (left : a.Sorted) (right : b.Sorted) :
    agree a b = true ↔
      ∀ path, ¬ hashPath <+: path → Option.Rel Same (a.view path) (b.view path) := by
  constructor
  · intro equal path outside
    have along := view_of_same equal path
    rwa [view_withoutHash, view_withoutHash, if_neg outside, if_neg outside] at along
  · intro equal
    refine same_of_view _ _ (sorted_withoutHash left) (sorted_withoutHash right) fun path => ?_
    rw [view_withoutHash, view_withoutHash]
    by_cases inside : hashPath <+: path
    · rw [if_pos inside, if_pos inside]
      exact .none
    · rw [if_neg inside, if_neg inside]
      exact equal path inside

/-- The nulls of a stored template, but for those at the label that is left out, are nulls of the live
one already. -/
def NullsStay (live stored : Json) : Prop :=
  ∀ path, path ≠ [] → ¬ hashPath <+: path → stored.at? path = some .null →
    live.at? path = some .null

/-- The live template agrees with the stored one after the merge patch just when no null has to be put
into it: in a merge patch a null removes. -/
theorem agree_patched_iff {live stored : Json} (left : live.Sorted) (right : stored.Sorted) :
    agree (patched live stored) stored = true ↔ NullsStay live stored := by
  rw [agree_iff (sorted_patched _ _ left right) right]
  constructor
  · intro equal path nonempty outside null
    have along := equal path outside
    simp only [view, null, Option.map_some] at along
    cases there : (patched live stored).at? path with
    | none => simp [there] at along
    | some v =>
      have isNull : Same v.shape (shape .null) := by simpa [there] using along
      have made : v = .null := by cases v <;> first | rfl | cases isNull
      exact null_of_patched _ _ left right path nonempty (made ▸ there)
  · intro stay path outside
    refine view_patched _ _ left right path fun before nonempty onTheWay => ?_
    exact stay before nonempty fun inside => outside (inside.trans onTheWay)

end Rollback.Template
