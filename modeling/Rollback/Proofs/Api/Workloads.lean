import Rollback.Proofs.Api.Records

/-! The metadata of an API object that was read are those of its document: its texts, and its
annotations with their values. -/
namespace Rollback

def Json.ofTexts (entries : List (String × String)) : Json :=
  .object (entries.map fun (key, value) => (key, .string value))

namespace Json

variable {entries : List (String × String)} {key : String}

theorem lookup_map_string (entries : List (String × String)) (key : String) :
    lookup key (entries.map fun (key, value) => (key, Json.string value)) =
      (lookup key entries).map .string := by
  induction entries with
  | nil => rfl
  | cons entry rest ih =>
    obtain ⟨l, s⟩ := entry
    by_cases same : l = key <;> simp [lookup, same, ih]

theorem textMembers_ofTexts (entries : List (String × String)) :
    Api.textMembers (.ofTexts entries) = entries := by
  induction entries with
  | nil => rfl
  | cons entry rest ih => exact congrArg (entry :: ·) ih

theorem keysIncrease_of_ofTexts (sorted : (ofTexts entries).Sorted) : KeysIncrease entries := by
  obtain ⟨ordered, _⟩ := Sorted.object_iff.mp sorted
  rw [KeysIncrease, List.map_map] at ordered
  exact ordered

end Json

namespace Api

open Schema

def Schema.fields : Schema → List Field
  | .record fields => fields
  | _ => []

variable {kind name : String} {fields : List Field} {u v w : Json}

namespace Schema

theorem text_of_readField {held? out? : Option Json}
    (decided : readField .optional .text held? = some out?) :
    out?.bind Json.text? = held?.bind Json.text? := by
  cases held? with
  | none =>
    cases decided
    rfl
  | some v =>
    cases v with
    | null =>
      cases decided
      rfl
    | string s =>
      cases decided
      rfl
    | _ => cases decided

/-- A text that a record may have is the one in the document. -/
theorem textAt?_of_read (unique : (fields.map (·.1)).Nodup) (read : (record fields).read v = some w)
    (field : (name, .optional, .text) ∈ fields) : w.textAt? [name] = v.textAt? [name] := by
  have same := text_of_readField (readField_of_read_record unique read field)
  simpa [Json.textAt?] using same

/-- A table of texts is read as it is. -/
theorem read_table_text : (table .text).read v = some w ↔ w = v ∧ ∃ entries, v = .ofTexts entries := by
  constructor
  · intro read
    cases v with
    | object members =>
      obtain ⟨out, each, rfl⟩ := Option.map_eq_some_iff.mp read
      obtain ⟨entries, rfl, rfl⟩ : ∃ entries : List (String × String),
          members = entries.map (fun (key, value) => (key, .string value)) ∧ out = members := by
        clear read
        induction members generalizing out with
        | nil => exact ⟨[], rfl, by cases each; rfl⟩
        | cons member rest ih =>
          obtain ⟨key, value⟩ := member
          rw [List.mapM_cons] at each
          obtain ⟨first, fits, each⟩ := Option.bind_eq_some_iff.mp each
          obtain ⟨later, eachRest, last⟩ := Option.bind_eq_some_iff.mp each
          obtain ⟨entries, rfl, rfl⟩ := ih later eachRest
          cases value with
          | string s =>
            cases fits
            cases last
            exact ⟨(key, s) :: entries, rfl, rfl⟩
          | _ => cases fits
      exact ⟨rfl, entries, rfl⟩
    | _ => cases read
  · rintro ⟨rfl, entries, rfl⟩
    have each : (entries.map fun (key, value) => (key, Json.string value)).mapM
          (fun member : String × Json => (Schema.text.read member.2).map fun v => (member.1, v)) =
        some (entries.map fun (key, value) => (key, Json.string value)) := by
      induction entries with
      | nil => rfl
      | cons entry rest ih =>
        rw [List.map_cons, List.mapM_cons, ih]
        rfl
    simp only [Json.ofTexts, Schema.read, each, Option.map_some]

/-- A table of texts that a record may have is missing, or it is the one in the document. -/
theorem texts_of_readField {held? out? : Option Json}
    (decided : readField .optional (.table .text) held? = some out?) :
    (out? = none ∧ ∀ key, held?.bind (Json.get? key) = none) ∨
      ∃ entries, held? = some (.ofTexts entries) ∧ out? = held? := by
  cases held? with
  | none =>
    cases decided
    exact .inl ⟨rfl, fun _ => rfl⟩
  | some v =>
    cases null : v.isNull with
    | true =>
      cases v with
      | null =>
        cases decided
        exact .inl ⟨rfl, fun _ => rfl⟩
      | _ => cases null
    | false =>
      rw [readField_of_read null] at decided
      obtain ⟨w, read, rfl⟩ := Option.map_eq_some_iff.mp decided
      obtain ⟨rfl, entries, rfl⟩ := read_table_text.mp read
      exact .inr ⟨entries, rfl, rfl⟩

theorem textMembers_of_readField {held? out? : Option Json}
    (decided : readField .optional (.table .text) held? = some out?) (key : String) :
    (lookup key (textMembers (out?.getD .null))).map Json.string = held?.bind (Json.get? key) := by
  rcases texts_of_readField decided with ⟨rfl, absent⟩ | ⟨entries, rfl, rfl⟩
  · rw [absent]
    rfl
  · rw [Option.getD_some, Json.textMembers_ofTexts, ← Json.lookup_map_string]
    rfl

theorem keysIncrease_of_readField {held? out? : Option Json}
    (decided : readField .optional (.table .text) held? = some out?)
    (sorted : ∀ v ∈ held?, v.Sorted) : KeysIncrease (textMembers (out?.getD .null)) := by
  rcases texts_of_readField decided with ⟨rfl, _⟩ | ⟨entries, rfl, rfl⟩
  · exact .nil
  · rw [Option.getD_some, Json.textMembers_ofTexts]
    exact Json.keysIncrease_of_ofTexts (sorted _ rfl)

end Schema

theorem unique_metadataFields : (metadataSchema.fields.map (·.1)).Nodup := by decide

/-- Where the metadata of an object come from. -/
theorem metadata_of_read (unique : ((appsObject kind fields).fields.map (·.1)).Nodup)
    (read : (appsObject kind fields).read v = some w) :
    (w.get? "metadata" = some (.object []) ∧ ∀ key, (v.get? "metadata").bind (Json.get? key) = none) ∨
      ∃ u m, v.get? "metadata" = some u ∧ w.get? "metadata" = some m ∧
        metadataSchema.read u = some m := by
  have decided : readField .required metadataSchema (v.get? "metadata") = some (w.get? "metadata") :=
    readField_of_read_record unique read (by simp [appsObject, Schema.fields])
  cases held : v.get? "metadata" with
  | none =>
    rw [held] at decided
    exact .inl ⟨(Option.some.inj decided).symm, fun _ => rfl⟩
  | some u =>
    rw [held] at decided
    cases null : u.isNull with
    | true =>
      cases u with
      | null => exact .inl ⟨(Option.some.inj decided).symm, fun _ => rfl⟩
      | _ => cases null
    | false =>
      rw [readField_of_read null] at decided
      obtain ⟨m, readMetadata, got⟩ := Option.map_eq_some_iff.mp decided
      exact .inr ⟨u, m, rfl, got.symm, readMetadata⟩

theorem textAt?_metadata (unique : ((appsObject kind fields).fields.map (·.1)).Nodup)
    (read : (appsObject kind fields).read v = some w)
    (field : (name, .optional, .text) ∈ metadataSchema.fields) :
    ((w.get? "metadata").getD .null).textAt? [name] = v.textAt? ["metadata", name] := by
  rcases metadata_of_read unique read with ⟨got, absent⟩ | ⟨u, m, given, got, readMetadata⟩
  · have none : v.at? ["metadata", name] = none := by
      have absent := absent name
      cases held : v.get? "metadata" with
      | none => simp [held]
      | some u => simpa [held] using absent
    simp only [Json.textAt?, none, got]
    rfl
  · have same : m.textAt? [name] = u.textAt? [name] :=
      Schema.textAt?_of_read unique_metadataFields readMetadata field
    rw [got, Option.getD_some, same]
    simp only [Json.textAt?, Json.at?_cons, given, Option.bind_some]

theorem readField_annotations {u m : Json} (read : metadataSchema.read u = some m) :
    readField .optional (.table .text) (u.get? "annotations") = some (m.get? "annotations") :=
  readField_of_read_record unique_metadataFields read (by simp [metadataSchema, Schema.fields, may])

theorem at?_annotations (unique : ((appsObject kind fields).fields.map (·.1)).Nodup)
    (read : (appsObject kind fields).read v = some w) (key : String) :
    (lookup key (metadataOf w).annotations).map Json.string =
      v.at? ["metadata", "annotations", key] := by
  rcases metadata_of_read unique read with ⟨got, absent⟩ | ⟨u, m, given, got, readMetadata⟩
  · have none : v.at? ["metadata", "annotations", key] = none := by
      have absent := absent "annotations"
      cases held : v.get? "metadata" with
      | none => simp [held]
      | some u =>
        have missing : u.get? "annotations" = none := by simpa [held] using absent
        simp [held, missing]
    rw [none, metadataOf, got]
    rfl
  · have texts := textMembers_of_readField (readField_annotations readMetadata) key
    rw [metadataOf, got]
    simp only [Metadata.ofRecord, Option.getD_some, texts, Json.at?_cons, given, Option.bind_some]
    cases u.get? "annotations" with
    | none => rfl
    | some table => cases held : table.get? key <;> simp [held]

/-- The annotations of a document in order are in order. -/
theorem keysIncrease_annotations (unique : ((appsObject kind fields).fields.map (·.1)).Nodup)
    (read : (appsObject kind fields).read v = some w) (sorted : v.Sorted) :
    KeysIncrease (metadataOf w).annotations := by
  rcases metadata_of_read unique read with ⟨got, _⟩ | ⟨u, m, given, got, readMetadata⟩
  · rw [metadataOf, got]
    exact .nil
  · rw [metadataOf, got]
    exact keysIncrease_of_readField (readField_annotations readMetadata) fun v held =>
      (sorted.of_get? given).of_get? held

end Api

end Rollback
