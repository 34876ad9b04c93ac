import Mathlib.Data.List.Lex
import Mathlib.Data.List.Sort

/-! Things in a tree with their places. A place is the list of steps on the way to it, so the order of places
is that of a walk that goes into each branch where it stands. -/
namespace Rollback

variable {α β : Type} {found found' : List (List α × β)} {head : α} {place : List α} {b : β}

/-- The same things seen from one step above. -/
def under (head : α) (found : List (List α × β)) : List (List α × β) :=
  found.map fun f => (head :: f.1, f.2)

theorem mem_under : (place, b) ∈ under head found ↔ ∃ below, place = head :: below ∧ (below, b) ∈ found := by
  simp only [under, List.mem_map, Prod.exists, Prod.mk.injEq]
  constructor
  · rintro ⟨below, other, inside, rfl, rfl⟩
    exact ⟨below, rfl, inside⟩
  · rintro ⟨below, rfl, inside⟩
    exact ⟨below, b, inside, rfl, rfl⟩

variable [LinearOrder α] {At : List α → β → Prop}

theorem ordered_under (ordered : (found.map Prod.fst).Pairwise (· < ·)) (head : α) :
    ((under head found).map Prod.fst).Pairwise (· < ·) := by
  rw [List.pairwise_map] at ordered
  rw [under, List.map_map, List.pairwise_map]
  apply ordered.imp
  intro a b before
  exact List.cons_lt_cons_iff.mpr (.inr ⟨rfl, before⟩)

/-- All that is at places, in the order of these. -/
structure Listing (At : List α → β → Prop) (found : List (List α × β)) : Prop where
  ordered : (found.map Prod.fst).Pairwise (· < ·)
  mem_iff : ∀ place b, (place, b) ∈ found ↔ At place b

theorem Listing.unique (all : Listing At found) (all' : Listing At found') : found = found' := by
  have : Std.Irrefl fun a b : List α × β => a.1 < b.1 := ⟨fun a => lt_irrefl a.1⟩
  have : Std.Antisymm fun a b : List α × β => a.1 < b.1 :=
    ⟨fun a b before after => (lt_asymm before after).elim⟩
  have ordered := List.pairwise_map.mp all.ordered
  apply ordered.eq_of_mem_iff (List.pairwise_map.mp all'.ordered)
  intro a
  rw [all.mem_iff a.1 a.2, all'.mem_iff a.1 a.2]

end Rollback
