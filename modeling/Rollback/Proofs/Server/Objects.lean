import Rollback.Proofs.Json.Members
import Rollback.Server.LiveObject

/-! Objects as a source hands them on: the type is that of the resource, and the metadata are those that
the server gave. -/
namespace Rollback

variable {members : Members} {key name : String} {v : Json} {o : LiveObject} {r : Resource}
  {ns? : Option String}

theorem not_mem_keys_erase (key : String) (entries : List (String × Json)) :
    key ∉ (erase key entries).map (·.1) := by
  intro member
  obtain ⟨entry, kept, same⟩ := List.mem_map.mp member
  simpa [same] using List.of_mem_filter kept

theorem mem_keys_of_erase (member : name ∈ (erase key members).map (·.1)) :
    name ∈ members.map (·.1) := by
  obtain ⟨entry, kept, same⟩ := List.mem_map.mp member
  exact List.mem_map.mpr ⟨entry, List.mem_of_mem_filter kept, same⟩

namespace LiveObject

/-- The members that are left beside an object's metadata have neither its metadata nor its version. -/
theorem apart_of_ofJson? (read : ofJson? v = some o) :
    "apiVersion" ∉ o.others.map (·.1) ∧ "metadata" ∉ o.others.map (·.1) := by
  cases v with
  | object members =>
    obtain ⟨metadata, _, rfl⟩ := Option.map_eq_some_iff.mp read
    have inside {k : String} (member : k ∈ (withoutType (erase "metadata" members)).map (·.1)) :
        k ∈ (erase "apiVersion" (erase "metadata" members)).map (·.1) := by
      unfold withoutType at member
      dsimp only at member
      split_ifs at member
      · exact mem_keys_of_erase member
      · exact member
    exact ⟨fun member => not_mem_keys_erase _ _ (inside member),
      fun member => not_mem_keys_erase _ _ (mem_keys_of_erase (inside member))⟩
  | _ => cases read

theorem get?_toJson (absent : key ∉ o.others.map (·.1)) :
    (o.toJson r).get? key = lookup key [("metadata", o.cleanMetadata), ("kind", .string r.kind),
      ("apiVersion", .string r.apiVersion)] := by
  have none : lookup key o.others.reverse = none :=
    lookup_eq_none_of_not_mem (by simpa using absent)
  simp only [toJson, Json.mk, Json.get?]
  rw [lookup_sortEntries, List.reverse_append, lookup_append, none, Option.none_or]
  rfl

theorem apiVersion_toJson (read : ofJson? v = some o) :
    (o.toJson r).get? "apiVersion" = some (.string r.apiVersion) := by
  rw [get?_toJson (apart_of_ofJson? read).1]
  rfl

/-- The metadata of an object keep their texts. -/
theorem textAt?_toJson (read : ofJson? v = some o) (other : name ≠ "managedFields") :
    (o.toJson r).textAt? ["metadata", name] = o.metadata.textAt? [name] := by
  have found : (o.toJson r).get? "metadata" = some o.cleanMetadata := by
    rw [get?_toJson (apart_of_ofJson? read).2]
    rfl
  have kept : o.cleanMetadata.get? name = o.metadata.get? name := by
    rw [cleanMetadata, Json.get?, lookup_erase, if_neg other.symm]
    cases o.metadata <;> rfl
  simp only [Json.textAt?, Json.at?_cons, found, kept, Option.bind_some]

end LiveObject

end Rollback
