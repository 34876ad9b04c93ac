import Mathlib.Data.List.Nodup
import Rollback.Proofs.Api.Schema

/-! Reading a record field by field: each field of what was read is decided by the member of its name,
and a record in which one member is replaced is read with that field replaced. -/
namespace Rollback

variable {α : Type}

theorem lookup_reverse_of_nodup {entries : List (String × α)} (unique : (entries.map (·.1)).Nodup)
    (key : String) : lookup key entries.reverse = lookup key entries := by
  induction entries with
  | nil => rfl
  | cons entry rest ih =>
    obtain ⟨l, v⟩ := entry
    obtain ⟨first, unique⟩ := List.nodup_cons.mp unique
    rw [List.reverse_cons, lookup_append, ih unique]
    by_cases same : l = key
    · subst same
      simp [lookup, lookup_eq_none_of_not_mem first]
    · simp [lookup, same]

namespace Api.Schema

variable {fields : List Field} {members out : Members} {v w value : Json} {name : String}
  {presence : Presence} {schema : Schema}

/-- What a field comes to, given the member of its name; none if that does not fit. -/
def readField (presence : Presence) (schema : Schema) (held? : Option Json) : Option (Option Json) :=
  match held?.filter fun v => !v.isNull || schema.isWord with
  | none =>
    match presence with
    | .required => some (some schema.empty)
    | .optional => some none
  | some v => (schema.read v).map some

theorem readField_of_read (present : value.isNull = false) :
    readField presence schema (some value) = (schema.read value).map some := by
  have kept : (some value).filter (fun v => !v.isNull || schema.isWord) = some value := by
    simp [present]
  unfold readField
  rw [kept]

/-- What an optional field holds was read from what is there. -/
theorem source_of_readField {held? : Option Json}
    (decided : readField .optional schema held? = some (some v)) :
    ∃ u, held? = some u ∧ schema.read u = some v := by
  unfold readField at decided
  split at decided
  · cases decided
  · next u kept =>
    obtain ⟨_, read, same⟩ := Option.map_eq_some_iff.mp decided
    cases same
    exact ⟨u, (Option.filter_eq_some_iff.mp kept).1, read⟩

theorem readFields_cons_eq (name : String) (presence : Presence) (schema : Schema)
    (rest : List Field) (members : Members) :
    readFields ((name, presence, schema) :: rest) members =
      (readField presence schema (lookup name members)).bind fun held? =>
        (readFields rest members).map (held?.toList.map (name, ·) ++ ·) := by
  rw [readFields_cons]
  unfold readField
  cases (lookup name members).filter fun v => !v.isNull || schema.isWord with
  | none => cases presence <;> simp
  | some held =>
    cases fits : schema.read held with
    | none => simp [fits]
    | some u => simp [fits]

theorem keys_readFields (read : readFields fields members = some out) :
    (out.map (·.1)).Sublist (fields.map (·.1)) := by
  induction fields generalizing out with
  | nil =>
    cases read
    exact .slnil
  | cons field rest ih =>
    obtain ⟨key, presence, schema⟩ := field
    rw [readFields_cons_eq] at read
    obtain ⟨held?, _, read⟩ := Option.bind_eq_some_iff.mp read
    obtain ⟨later, readRest, rfl⟩ := Option.map_eq_some_iff.mp read
    cases held? with
    | none => exact (ih readRest).cons _
    | some u => exact (ih readRest).cons_cons _

theorem readField_of_readFields (unique : (fields.map (·.1)).Nodup)
    (read : readFields fields members = some out) (field : (name, presence, schema) ∈ fields) :
    readField presence schema (lookup name members) = some (lookup name out) := by
  induction fields generalizing out with
  | nil => cases field
  | cons head rest ih =>
    obtain ⟨key, presence', schema'⟩ := head
    obtain ⟨first, unique⟩ := List.nodup_cons.mp unique
    rw [readFields_cons_eq] at read
    obtain ⟨held?, fits, read⟩ := Option.bind_eq_some_iff.mp read
    obtain ⟨later, readRest, rfl⟩ := Option.map_eq_some_iff.mp read
    rcases List.mem_cons.mp field with same | inRest
    · cases same
      have absent : lookup name later = none :=
        lookup_eq_none_of_not_mem fun member => first ((keys_readFields readRest).subset member)
      rw [fits, lookup_append, absent]
      cases held? <;> simp [lookup]
    · have different : key ≠ name := by
        rintro rfl
        exact first (List.mem_map.mpr ⟨_, inRest, rfl⟩)
      rw [ih unique readRest inRest, lookup_append]
      cases held? <;> simp [lookup, different]

theorem readFields_of_fits
    (fits : ∀ field ∈ fields, (readField field.2.1 field.2.2 (lookup field.1 members)).isSome) :
    ∃ out, readFields fields members = some out := by
  induction fields with
  | nil => exact ⟨[], rfl⟩
  | cons field rest ih =>
    obtain ⟨key, presence, schema⟩ := field
    obtain ⟨first, later⟩ := List.forall_mem_cons.mp fits
    obtain ⟨held?, fit⟩ := Option.isSome_iff_exists.mp first
    obtain ⟨out, read⟩ := ih later
    exact ⟨_, by rw [readFields_cons_eq, fit, read]; rfl⟩

/-- Each field of a record that was read is decided by the member of its name. -/
theorem readField_of_read_record (unique : (fields.map (·.1)).Nodup)
    (read : (record fields).read v = some w) (field : (name, presence, schema) ∈ fields) :
    readField presence schema (v.get? name) = some (w.get? name) := by
  obtain ⟨members, out, rfl, inside, rfl⟩ := read_record read
  have keys := (keys_readFields inside).nodup unique
  rw [Json.get?, Json.get?, lookup_sortEntries, lookup_reverse_of_nodup keys]
  exact readField_of_readFields unique inside field

/-- A record that was read has no other fields than its shape. -/
theorem get?_of_read_record_of_not_mem (read : (record fields).read v = some w)
    (other : name ∉ fields.map (·.1)) : w.get? name = none := by
  obtain ⟨members, out, rfl, inside, rfl⟩ := read_record read
  rw [Json.get?, lookup_sortEntries]
  refine lookup_eq_none_of_not_mem fun member => other ?_
  rw [List.map_reverse, List.mem_reverse] at member
  exact (keys_readFields inside).subset member

/-- The fields that are read from the members of an object: those of the shape, in order, each decided
by the member of its name. -/
structure Shaped (fields : List Field) (members out : Members) : Prop where
  sorted : KeysIncrease out
  only : ∀ name ∉ fields.map (·.1), lookup name out = none
  each : ∀ name presence schema, (name, presence, schema) ∈ fields →
    readField presence schema (lookup name members) = some (lookup name out)

theorem read_record_iff (unique : (fields.map (·.1)).Nodup) :
    (record fields).read (.object members) = some (.object out) ↔ Shaped fields members out := by
  constructor
  · intro read
    refine ⟨?_, fun name other => get?_of_read_record_of_not_mem read other,
      fun name presence schema field => readField_of_read_record unique read field⟩
    obtain ⟨_, inside, _, _, same⟩ := read_record read
    cases same
    exact KeysIncrease.nil.foldl_insert inside
  · intro shaped
    obtain ⟨inside, readInside⟩ : ∃ inside, readFields fields members = some inside := by
      refine readFields_of_fits fun field found => ?_
      rw [shaped.each _ _ _ found]
      rfl
    have read : (record fields).read (.object members) = some (.object (sortEntries inside)) := by
      simp only [Schema.read, readInside, Option.map_some]
    rw [read]
    -- The fields come in the order of the shape, and are decided by their look-ups once sorted.
    refine congrArg (some <| Json.object ·) (KeysIncrease.ext (KeysIncrease.nil.foldl_insert inside)
      shaped.sorted fun key => ?_)
    by_cases known : key ∈ fields.map (·.1)
    · obtain ⟨⟨_, presence, schema⟩, found, rfl⟩ := List.mem_map.mp known
      have decided := readField_of_read_record unique read found
      rw [Json.get?, shaped.each _ _ _ found] at decided
      exact (Option.some.inj decided).symm
    · rw [shaped.only key known]
      exact get?_of_read_record_of_not_mem read known

/-- With one member replaced by one that fits, an object is read with that field replaced. -/
theorem Shaped.insert (unique : (fields.map (·.1)).Nodup) (shaped : Shaped fields members out)
    (field : (name, presence, schema) ∈ fields) (present : value.isNull = false)
    (fits : schema.read value = some v) :
    Shaped fields (Rollback.insert name value members) (Rollback.insert name v out) where
  sorted := shaped.sorted.insert name v
  only key other := by
    have different : name ≠ key := by
      rintro rfl
      exact other (List.mem_map.mpr ⟨_, field, rfl⟩)
    rw [lookup_insert, if_neg different, shaped.only key other]
  each key presence' schema' found := by
    rw [lookup_insert, lookup_insert]
    split
    · next same =>
      subst same
      cases List.inj_on_of_nodup_map unique found field rfl
      rw [readField_of_read present, fits]
      rfl
    · exact shaped.each key presence' schema' found

/-- A value put at a path that begins with a field shows up at that path of what is read. -/
theorem read_put (unique : (fields.map (·.1)).Nodup) (read : (record fields).read v = some w)
    (field : (name, presence, schema) ∈ fields) {path : List String} {value value' : Json}
    (present : (((v.get? name).getD .null).put path value).isNull = false)
    (fits : schema.read (((v.get? name).getD .null).put path value) =
      some (((w.get? name).getD .null).put path value')) :
    (record fields).read (v.put (name :: path) value) = some (w.put (name :: path) value') := by
  obtain ⟨members, _, rfl, _, rfl⟩ := read_record read
  exact (read_record_iff unique).mpr (((read_record_iff unique).mp read).insert unique field present fits)

end Api.Schema

end Rollback
