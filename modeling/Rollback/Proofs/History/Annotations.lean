import Rollback.History.Template
import Rollback.Proofs.Json.Members

/-! The annotations of a deployment that has gone back, name by name. A rollback from these annotations
to the same revision comes to them again. -/
namespace Rollback.Annotations

variable {current later earlier : Map}

theorem lookup_kept (names : List String) (current : Map) (key : String) :
    lookup key (names.filterMap fun name => (lookup name current).map (name, ·)) =
      if key ∈ names then lookup key current else none := by
  induction names with
  | nil => rfl
  | cons name rest ih =>
    rw [List.filterMap_cons]
    by_cases same : name = key
    · subst same
      cases held : lookup name current with
      | none => simp [ih, held]
      | some value => simp [lookup]
    · cases held : lookup name current with
      | none => simp [ih, Ne.symm same]
      | some value => simp [lookup, same, Ne.symm same, ih]

/-- The own annotations are the current ones, and all others those of the earlier revision. -/
theorem lookup_rolledBack (current : Map) (sorted : KeysIncrease earlier) (key : String) :
    lookup key (rolledBack current earlier) =
      if key ∈ own then lookup key current else lookup key earlier := by
  rw [rolledBack, lookup_sortEntries, List.reverse_append, lookup_append,
    (sorted.sublist List.filter_sublist).lookup_reverse, lookup_filter (fun name => !own.contains name),
    ← List.filterMap_reverse, lookup_kept]
  by_cases kept : key ∈ own
  · simp [kept]
  · simp [kept]

/-- Nothing of the current annotations counts but the own ones. -/
theorem rolledBack_congr (same : ∀ key ∈ own, lookup key later = lookup key current) :
    rolledBack later earlier = rolledBack current earlier := by
  have kept : (own.filterMap fun key => (lookup key later).map (key, ·)) =
      own.filterMap fun key => (lookup key current).map (key, ·) :=
    List.filterMap_congr fun key member => by rw [same key member]
  rw [rolledBack, kept, rolledBack]

theorem rolledBack_rolledBack (current : Map) (sorted : KeysIncrease earlier) {mark : String}
    (foreign : mark ∉ own) :
    rolledBack (erase mark (rolledBack current earlier)) earlier = rolledBack current earlier := by
  refine rolledBack_congr fun key member => ?_
  have other : mark ≠ key := by
    rintro rfl
    exact foreign member
  rw [lookup_erase, if_neg other, lookup_rolledBack current sorted, if_pos member]

end Rollback.Annotations
