import Rollback.Api.Workloads
import Rollback.Proofs.Json.Members
import Rollback.Proofs.Traversal

/-! Reading a document by a shape, step by step: the fields of a record, and the items of a list. -/
namespace Rollback.Api

namespace Schema

variable {fields : List Field} {members out : Members} {v w : Json} {name : String}

theorem readFields_cons (name : String) (presence : Presence) (schema : Schema) (rest : List Field)
    (members : Members) :
    readFields ((name, presence, schema) :: rest) members =
      match (lookup name members).filter fun v => !v.isNull || schema.isWord with
      | none =>
        match presence with
        | .required => (readFields rest members).map ((name, empty schema) :: ·)
        | .optional => readFields rest members
      | some v =>
        match read schema v with
        | none => none
        | some v => (readFields rest members).map ((name, v) :: ·) := rfl

theorem read_record (read : (record fields).read v = some w) :
    ∃ members out, v = .object members ∧ readFields fields members = some out ∧
      w = .object (sortEntries out) := by
  cases v with
  | object members =>
    obtain ⟨out, inside, rfl⟩ := Option.map_eq_some_iff.mp read
    exact ⟨members, out, rfl, inside, rfl⟩
  | _ => cases read

end Schema

def listItems? (v : Json) : Option (List Json) :=
  match v.get? "items" with
  | some .null => some []
  | some (.array items) => some items
  | _ => none

theorem readList_eq {α : Type} (item? : Json → Option α) (v : Json) :
    readList item? v = ((v.get? "metadata").bind listMetadataSchema.read).bind fun _ =>
      (listItems? v).bind fun items => items.mapM item? := by
  unfold readList listItems?
  refine bind_congr fun _ => ?_
  split <;> simp_all

theorem sorted_of_listItems {v u : Json} {items : List Json} (sorted : v.Sorted)
    (listed : listItems? v = some items) (member : u ∈ items) : u.Sorted := by
  unfold listItems? at listed
  split at listed
  · cases listed
    cases member
  · next items found =>
    cases listed
    have all : (Json.array items).Sorted := sorted.of_get? found
    exact Json.sortedItems_iff.mp all u member
  · cases listed

section Lists

variable {α : Type} {item? : Json → Option α} {v : Json} {out : List α} {item : α}

/-- What a list document brings was read from its items, in order. -/
theorem forall₂_of_readList (read : readList item? v = some out) :
    ∃ items, listItems? v = some items ∧ List.Forall₂ (fun u item => item? u = some item) items out := by
  rw [readList_eq] at read
  obtain ⟨_, _, read⟩ := Option.bind_eq_some_iff.mp read
  obtain ⟨items, listed, read⟩ := Option.bind_eq_some_iff.mp read
  exact ⟨items, listed, Traversal.forall₂_of_mapM_some read⟩

theorem source_of_readList (read : readList item? v = some out) (member : item ∈ out) :
    ∃ items u, listItems? v = some items ∧ u ∈ items ∧ item? u = some item := by
  obtain ⟨items, listed, pairs⟩ := forall₂_of_readList read
  obtain ⟨u, inside, readItem⟩ := Traversal.exists_of_forall₂ pairs member
  exact ⟨items, u, listed, inside, readItem⟩

/-- What a list document brings was read from documents inside it. -/
theorem mem_of_readList (read : readList item? v = some out) (sorted : v.Sorted)
    (member : item ∈ out) : ∃ u, u.Sorted ∧ item? u = some item := by
  obtain ⟨items, u, listed, inside, readItem⟩ := source_of_readList read member
  exact ⟨u, sorted_of_listItems sorted listed inside, readItem⟩

end Lists

end Rollback.Api
