import Rollback.Catalog.Basic
import Mathlib.Data.Prod.Lex
import Mathlib.Data.String.Basic

/-! The resources of a catalog as they are looked up: what is found is one of its entries, and of
several answers to a bare name the first one that stands highest. -/
namespace Rollback

variable {c : Catalog} {r : Resource}

/-- Where a resource stands among the answers to a bare name: by the rank of its group, then by the
group itself. -/
def Resource.standing (r : Resource) : Nat ×ₗ String := toLex (groupRank r.group, r.group)

theorem Resource.standing_inj {a b : Resource} : a.standing = b.standing ↔ a.group = b.group := by
  constructor
  · intro same
    exact (Prod.mk.inj (toLex_inj.mp same)).2
  · intro same
    rw [standing, same, standing]

namespace Catalog

theorem better_iff (a b : Resource) : better a b = true ↔ a.standing < b.standing := by
  simp [better, Resource.standing, Prod.Lex.lt_iff]

theorem mem_of_find? {gvk : Gvk} (found : c.find? gvk = some r) : r ∈ c.entries ∧ r.gvk = gvk :=
  ⟨List.mem_of_find?_eq_some found, by simpa using List.find?_some found⟩

section Best

variable {resources : List Resource}

theorem mem_of_best (found : best resources = some r) : r ∈ resources := by
  induction resources with
  | nil => cases found
  | cons first rest ih =>
    unfold best at found
    split at found
    · next other chosen =>
      split at found
      · cases found
        exact List.mem_cons_of_mem _ (ih chosen)
      · cases found
        exact List.mem_cons_self
    · cases found
      exact List.mem_cons_self

theorem best_eq_none : best resources = none ↔ resources = [] := by
  constructor
  · intro nothing
    cases resources with
    | nil => rfl
    | cons first rest =>
      unfold best at nothing
      split at nothing
      · split at nothing <;> cases nothing
      · cases nothing
  · rintro rfl
    rfl

theorem standing_le_of_best (found : best resources = some r) {other : Resource}
    (member : other ∈ resources) : r.standing ≤ other.standing := by
  induction resources generalizing r with
  | nil => cases member
  | cons first rest ih =>
    unfold best at found
    split at found
    · next champion chosen =>
      split at found
      · next higher =>
        cases found
        rcases List.mem_cons.mp member with rfl | later
        · exact ((better_iff _ _).mp higher).le
        · exact ih chosen later
      · next notHigher =>
        cases found
        have least : first.standing ≤ champion.standing :=
          not_lt.mp ((better_iff _ _).not.mp notHigher)
        rcases List.mem_cons.mp member with rfl | later
        · exact le_refl _
        · exact least.trans (ih chosen later)
    · next nothing =>
      cases found
      obtain rfl := best_eq_none.mp nothing
      rw [List.mem_singleton.mp member]

/-- The best resource is the first one of its group. -/
theorem find?_group_of_best (found : best resources = some r) :
    resources.find? (fun other => other.group = r.group) = some r := by
  induction resources generalizing r with
  | nil => cases found
  | cons first rest ih =>
    unfold best at found
    split at found
    · next champion chosen =>
      split at found
      · next higher =>
        cases found
        -- The first resource stands lower than the best one, so it is of another group.
        have apart : first.group ≠ r.group := by
          intro same
          have below := (better_iff _ _).mp higher
          rw [Resource.standing_inj.mpr same] at below
          exact lt_irrefl _ below
        rw [List.find?_cons_of_neg (by simpa using apart)]
        exact ih chosen
      · cases found
        simp
    · cases found
      simp

end Best

theorem mem_of_preferred (member : r ∈ c.preferred) : r ∈ c.entries := List.mem_of_mem_filter member

/-- The resource of a lower-case name at the version and in the group that a text goes on with. -/
def atVersion? (c : Catalog) (name rest : String) : Option Resource :=
  (Text.cut '.' rest).bind fun (version, group) =>
    c.entries.find? fun r => r.version = version ∧ r.group = group ∧ r.hasName name

/-- The resource of a lower-case name at the preferred version of a group. -/
def inGroup? (c : Catalog) (name group : String) : Option Resource :=
  c.preferred.find? fun r => r.group = group ∧ r.hasName name

theorem ofQualifiedName?_of_cut {text name rest : String} (cut : Text.cut '.' text = some (name, rest)) :
    c.ofQualifiedName? text = (c.atVersion? name rest).or (c.inGroup? name rest) := by
  simp only [ofQualifiedName?, cut, Option.bind_some, Option.orElse_eq_orElse, Option.orElse_eq_or]
  rfl

theorem ofQualifiedName?_of_uncut {text : String} (uncut : Text.cut '.' text = none) :
    c.ofQualifiedName? text = none := by
  rw [ofQualifiedName?, uncut, Option.bind_none]

def search (c : Catalog) (name : String) : Option Resource :=
  c.ofShortName? name <|> c.ofQualifiedName? name <|> c.ofBareName? name

theorem search_eq (c : Catalog) (name : String) : c.search name =
    (c.ofShortName? name).or ((c.ofQualifiedName? name).or (c.ofBareName? name)) := by
  simp only [search, Option.orElse_eq_orElse, Option.orElse_eq_or]

theorem resolve_eq (c : Catalog) (input : String) :
    c.resolve input =
      match c.search (Text.lowerCase input) with
      | some r => .ok r
      | none => .error (.unknownType input) := rfl

theorem resolve_eq_ok {input : String} :
    c.resolve input = .ok r ↔ c.search (Text.lowerCase input) = some r := by
  rw [resolve_eq]
  cases c.search (Text.lowerCase input) <;> simp

theorem resolve_eq_error {input : String} {fault : CatalogFault} :
    c.resolve input = .error fault ↔
      c.search (Text.lowerCase input) = none ∧ fault = .unknownType input := by
  rw [resolve_eq]
  cases c.search (Text.lowerCase input) <;> simp [eq_comm]

/-- A name means a resource that the server serves. -/
theorem mem_of_resolve {input : String} (found : c.resolve input = .ok r) : r ∈ c.entries := by
  rw [resolve_eq_ok, search_eq, Option.or_eq_some_iff, Option.or_eq_some_iff] at found
  rcases found with short | ⟨-, qualified | ⟨-, bare⟩⟩
  · obtain ⟨s, _, chosen⟩ := Option.bind_eq_some_iff.mp short
    exact mem_of_preferred (List.mem_of_find?_eq_some chosen)
  · obtain ⟨⟨name, rest⟩, cut, _⟩ := Option.bind_eq_some_iff.mp qualified
    rw [ofQualifiedName?_of_cut cut, Option.or_eq_some_iff] at qualified
    rcases qualified with exact | ⟨-, preferred⟩
    · obtain ⟨version, _, chosen⟩ := Option.bind_eq_some_iff.mp exact
      exact List.mem_of_find?_eq_some chosen
    · exact mem_of_preferred (List.mem_of_find?_eq_some preferred)
  · exact mem_of_preferred (List.mem_of_mem_filter (mem_of_best bare))

end Catalog

end Rollback
