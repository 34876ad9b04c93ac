import Rollback.Manifest.Reference
import Rollback.Proofs.Json.Members
import Rollback.Proofs.Places
import Rollback.Proofs.Traversal

/-! Lists in manifests. A list stands for its items, so the objects of a document are the leaves of a tree
whose inner nodes are lists. They are gathered in the order of their places, each once, and the first that
names nothing ends it. So it makes no difference how documents are packed into lists. -/
namespace Rollback.Reference

/-- An object whose kind ends in `List`, with the array of its items. -/
structure ListOf (v : Json) (items : List Json) : Prop where
  kind : ∃ start, v.textAt? ["kind"] = some (start ++ "List")
  items : v.get? "items" = some (.array items)

/-- The numbers of a place, one for each list on the way, lead from a document to an object. -/
inductive LeafAt : Json → List Nat → Json → Prop where
  | here {v : Json} (single : ∀ items, ¬ ListOf v items) : LeafAt v [] v
  | item {v w leaf : Json} {items : List Json} {k : Nat} {place : List Nat} (list : ListOf v items)
      (inside : items[k]? = some w) (below : LeafAt w place leaf) : LeafAt v (k :: place) leaf

/-- An object with the coordinates of a reference, all of them texts, and with an `apiVersion` that has a
group and a version. -/
structure HasCoordinates (v : Json) (r : Reference) : Prop where
  kind : v.textAt? ["kind"] = some r.gvk.kind
  apiVersion : ∃ text, v.textAt? ["apiVersion"] = some text ∧
    parseApiVersion text = .ok (r.gvk.group, r.gvk.version)
  name : v.textAt? ["metadata", "name"] = some r.name
  ns : v.textAt? ["metadata", "namespace"] = r.ns?

/-- What an object lacks that names nothing, when it has all that is looked at before. -/
def Lacks (v : Json) : ReferenceFault → Prop
  | .noKind => v.textAt? ["kind"] = none
  | .noApiVersion => v.textAt? ["kind"] ≠ none ∧ v.textAt? ["apiVersion"] = none
  | .noName kind => v.textAt? ["kind"] = some kind ∧ v.textAt? ["apiVersion"] ≠ none ∧
      v.textAt? ["metadata", "name"] = none
  | .badApiVersion text fault => v.textAt? ["kind"] ≠ none ∧ v.textAt? ["apiVersion"] = some text ∧
      v.textAt? ["metadata", "name"] ≠ none ∧ parseApiVersion text = .error fault

/-- Documents in place of some of which lists of them stand, at any depth. -/
inductive Packs : (packed docs : List Json) → Prop where
  | nil : Packs [] []
  | keep {packed docs : List Json} (v : Json) (rest : Packs packed docs) : Packs (v :: packed) (v :: docs)
  | wrap {v : Json} {items inner packed docs : List Json} (list : ListOf v items)
      (inside : Packs items inner) (rest : Packs packed docs) : Packs (v :: packed) (inner ++ docs)

/-- The documents of a stream. What is null is none. -/
def StreamOf (stream : List (Except Yaml.Fault Yaml.Value)) (docs : List Json) : Prop :=
  ∃ values : List Yaml.Value, stream = values.map .ok ∧
    List.Forall₂ (fun v doc => v.toJson? = some doc) (values.filter fun v => !v.isNull) docs

variable {v w : Json} {r : Reference} {items docs packed : List Json} {found refs : List Reference}
  {leaves more : List (List Nat × Json)} {fault : ReferenceFault}

theorem ofJson_eq_ok : ofJson v = .ok r ↔ HasCoordinates v r := by
  constructor
  · intro read
    unfold ofJson at read
    cases kind : v.textAt? ["kind"] with
    | none =>
      rw [kind] at read
      cases read
    | some k =>
      cases apiVersion : v.textAt? ["apiVersion"] with
      | none =>
        rw [kind, apiVersion] at read
        cases read
      | some text =>
        cases name : v.textAt? ["metadata", "name"] with
        | none =>
          rw [kind, apiVersion, name] at read
          cases read
        | some n =>
          cases parsed : parseApiVersion text with
          | error fault =>
            simp [kind, apiVersion, name, Gvk.ofApiVersion, parsed] at read
          | ok type =>
            simp only [kind, apiVersion, name, Gvk.ofApiVersion, parsed, Except.map,
              Except.ok.injEq] at read
            subst read
            exact ⟨kind, ⟨text, apiVersion, parsed⟩, name, rfl⟩
  · rintro ⟨kind, ⟨text, apiVersion, parsed⟩, name, ns⟩
    simp [ofJson, kind, apiVersion, name, Gvk.ofApiVersion, parsed, ns]

theorem ofJson_eq_error : ofJson v = .error fault ↔ Lacks v fault := by
  unfold ofJson
  cases kind : v.textAt? ["kind"] with
  | none => cases fault <;> simp [Lacks, kind]
  | some k =>
    cases apiVersion : v.textAt? ["apiVersion"] with
    | none => cases fault <;> simp [Lacks, kind, apiVersion]
    | some text =>
      cases name : v.textAt? ["metadata", "name"] with
      | none => cases fault <;> simp [Lacks, kind, apiVersion, name]
      | some n =>
        have sameFault (other : String) (reason : ApiVersionFault) :
            text = other ∧ parseApiVersion text = .error reason ↔
              text = other ∧ parseApiVersion other = .error reason := by
          constructor <;> rintro ⟨rfl, parsed⟩ <;> exact ⟨rfl, parsed⟩
        cases parsed : parseApiVersion text <;> cases fault <;>
          simp [Lacks, kind, apiVersion, name, Gvk.ofApiVersion, parsed, ← sameFault]

def items? (v : Json) : Option (List Json) :=
  if (v.textAt? ["kind"]).any (Text.endsWith "List") then (v.get? "items").bind Json.items? else none

theorem endsWith_iff {tail s : String} : Text.endsWith tail s = true ↔ ∃ start, s = start ++ tail := by
  rw [Text.endsWith, List.isSuffixOf_iff_suffix]
  constructor
  · rintro ⟨start, whole⟩
    exact ⟨String.ofList start, by rw [← String.toList_inj]; simp [whole]⟩
  · rintro ⟨start, rfl⟩
    exact ⟨start.toList, by simp⟩

theorem items?_eq_some : items? v = some items ↔ ListOf v items := by
  unfold items?
  constructor
  · intro found
    cases kind : v.textAt? ["kind"] with
    | none =>
      rw [kind] at found
      cases found
    | some k =>
      cases inside : v.get? "items" with
      | none => simp [kind, inside] at found
      | some member =>
        simp only [kind, inside, Option.any_some, Option.bind_some] at found
        split at found
        · next list =>
          obtain ⟨start, rfl⟩ := endsWith_iff.mp list
          cases member <;> cases found
          exact ⟨⟨start, kind⟩, inside⟩
        · cases found
  · rintro ⟨⟨start, kind⟩, inside⟩
    have list : Text.endsWith "List" (start ++ "List") = true := endsWith_iff.mpr ⟨start, rfl⟩
    simp [kind, list, inside, Json.items?]

theorem items?_eq_none : items? v = none ↔ ∀ items, ¬ ListOf v items := by
  simp only [← items?_eq_some]
  exact Option.eq_none_iff_forall_ne_some

theorem gatherList_eq (found : List Reference) (members : Members) :
    gatherList found members = (lookup "items" members).bind (gatherArray found) := by
  induction members with
  | nil => rfl
  | cons member rest ih =>
    obtain ⟨key, v⟩ := member
    rw [gatherList, lookup]
    split
    · rfl
    · exact ih

theorem gather_eq (found : List Reference) (v : Json) : gather found v =
    match items? v with
    | some items => gatherItems found items
    | none => add found v := by
  cases v with
  | object members =>
    have kind : isListKind members =
        ((Json.object members).textAt? ["kind"]).any (Text.endsWith "List") := by
      cases inside : lookup "kind" members <;> simp [isListKind, Json.textAt?, Json.get?, inside]
    rw [gather, kind, items?, gatherList_eq]
    split
    · cases inside : lookup "items" members with
      | none => simp [Json.get?, inside]
      | some v => cases v <;> simp [Json.get?, inside, gatherArray, Json.items?]
    · rfl
  | _ => rfl

theorem gather_of_list (list : ListOf v items) : gather found v = gatherItems found items := by
  rw [gather_eq, items?_eq_some.mpr list]

theorem gather_of_single (single : ∀ items, ¬ ListOf v items) : gather found v = add found v := by
  rw [gather_eq, items?_eq_none.mpr single]

theorem sizeOf_lt_of_listOf (list : ListOf v items) (inside : w ∈ items) : sizeOf w < sizeOf v := by
  have among := list.items
  cases v with
  | object members =>
    have whole := Json.sizeOf_lt_object (mem_of_lookup among)
    have item := List.sizeOf_lt_of_mem inside
    rw [Json.array.sizeOf_spec] at whole
    omega
  | _ => cases among

/-- The places of the objects in the items of a list whose first item has the number `start`. -/
def LeadsFrom (start : Nat) (items : List Json) (place : List Nat) (leaf : Json) : Prop :=
  ∃ k w below, place = (start + k) :: below ∧ items[k]? = some w ∧ LeafAt w below leaf

theorem listing_nil (start : Nat) : Listing (LeadsFrom start []) [] := ⟨.nil, by simp [LeadsFrom]⟩

theorem listing_cons {start : Nat} {rest : List Json} (first : Listing (LeafAt v) leaves)
    (later : Listing (LeadsFrom (start + 1) rest) more) :
    Listing (LeadsFrom start (v :: rest)) (under start leaves ++ more) := by
  constructor
  · rw [List.map_append, List.pairwise_append]
    refine ⟨ordered_under first.ordered start, later.ordered, ?_⟩
    -- Places in the first item begin with its number, and those in later items with a greater one.
    intro place here other there
    obtain ⟨⟨place, leaf⟩, inside, rfl⟩ := List.mem_map.mp here
    obtain ⟨⟨other, leaf'⟩, beyond, rfl⟩ := List.mem_map.mp there
    obtain ⟨below, rfl, -⟩ := mem_under.mp inside
    obtain ⟨k, w, below', rfl, -⟩ := (later.mem_iff other leaf').mp beyond
    exact List.cons_lt_cons_iff.mpr (.inl (by omega))
  · intro place leaf
    rw [List.mem_append, mem_under, later.mem_iff]
    constructor
    · rintro (⟨below, rfl, inside⟩ | ⟨k, w, below, rfl, item, leads⟩)
      · exact ⟨0, v, below, rfl, rfl, (first.mem_iff below leaf).mp inside⟩
      · exact ⟨k + 1, w, below, by rw [Nat.add_right_comm]; rfl, item, leads⟩
    · rintro ⟨k, w, below, rfl, item, leads⟩
      cases k with
      | zero =>
        cases item
        exact .inl ⟨below, rfl, (first.mem_iff below leaf).mpr leads⟩
      | succ k => exact .inr ⟨k, w, below, by rw [Nat.add_right_comm]; rfl, item, leads⟩

theorem listing_of_single (single : ∀ items, ¬ ListOf v items) : Listing (LeafAt v) [([], v)] := by
  constructor
  · simp
  · intro place leaf
    rw [List.mem_singleton, Prod.mk.injEq]
    constructor
    · rintro ⟨rfl, rfl⟩
      exact .here single
    · intro leads
      cases leads with
      | here => exact ⟨rfl, rfl⟩
      | item list => exact absurd list (single _)

theorem listing_of_list (list : ListOf v items) (inside : Listing (LeadsFrom 0 items) leaves) :
    Listing (LeafAt v) leaves := by
  constructor
  · exact inside.ordered
  · intro place leaf
    rw [inside.mem_iff]
    constructor
    · rintro ⟨k, w, below, rfl, item, leads⟩
      rw [Nat.zero_add]
      exact .item list item leads
    · intro leads
      cases leads with
      | here single => exact absurd list (single _)
      | @item _ w _ items' k below list' item leads =>
        have same : some items' = some items := by rw [← items?_eq_some.mpr list', items?_eq_some.mpr list]
        cases same
        exact ⟨k, w, below, by rw [Nat.zero_add], item, leads⟩

/-- The references found so far, the last first, and those of objects one after the other. -/
def addAll (found : List Reference) (leaves : List (List Nat × Json)) :
    Except ReferenceFault (List Reference) :=
  (leaves.mapM fun l => ofJson l.2).map fun refs => refs.reverse ++ found

theorem addAll_append (found : List Reference) (leaves more : List (List Nat × Json)) :
    addAll found (leaves ++ more) = addAll found leaves >>= fun found => addAll found more := by
  unfold addAll
  rw [List.mapM_append]
  cases leaves.mapM fun l => ofJson l.2 with
  | error fault => rfl
  | ok refs =>
    cases more.mapM fun l => ofJson l.2 with
    | error fault => simp
    | ok others => simp

theorem addAll_under (found : List Reference) (k : Nat) (leaves : List (List Nat × Json)) :
    addAll found (under k leaves) = addAll found leaves := by
  unfold addAll under
  rw [List.mapM_map]
  rfl

theorem addAll_single (found : List Reference) (place : List Nat) (v : Json) :
    addAll found [(place, v)] = add found v := by
  unfold addAll add
  cases read : ofJson v <;> simp [read]

theorem exists_listingFrom (items : List Json)
    (each : ∀ w ∈ items, ∃ leaves, Listing (LeafAt w) leaves ∧ ∀ found, gather found w = addAll found leaves)
    (start : Nat) : ∃ leaves, Listing (LeadsFrom start items) leaves ∧
      ∀ found, gatherItems found items = addAll found leaves := by
  induction items generalizing start with
  | nil => exact ⟨[], listing_nil start, fun found => rfl⟩
  | cons v rest ih =>
    obtain ⟨leaves, first, gathered⟩ := each v List.mem_cons_self
    obtain ⟨more, later, gathered'⟩ := ih (fun w inside => each w (List.mem_cons_of_mem _ inside)) (start + 1)
    refine ⟨under start leaves ++ more, listing_cons first later, ?_⟩
    intro found
    rw [gatherItems, addAll_append, addAll_under, gathered]
    exact congrArg (Except.bind _) (funext gathered')

/-- A document has its objects, in the order of their places, and what is gathered are the references of
these. -/
theorem exists_listing (v : Json) :
    ∃ leaves, Listing (LeafAt v) leaves ∧ ∀ found, gather found v = addAll found leaves := by
  by_cases list : ∃ items, ListOf v items
  · obtain ⟨items, list⟩ := list
    have each (w : Json) (inside : w ∈ items) :
        ∃ leaves, Listing (LeafAt w) leaves ∧ ∀ found, gather found w = addAll found leaves := by
      have smaller := sizeOf_lt_of_listOf list inside
      exact exists_listing w
    obtain ⟨leaves, inside, gathered⟩ := exists_listingFrom items each 0
    refine ⟨leaves, listing_of_list list inside, ?_⟩
    intro found
    rw [gather_of_list list, gathered]
  · have single : ∀ items, ¬ ListOf v items := fun items at' => list ⟨items, at'⟩
    refine ⟨[([], v)], listing_of_single single, ?_⟩
    intro found
    rw [gather_of_single single, addAll_single]
termination_by sizeOf v

theorem collect_eq (gathered : ∀ found, gather found v = addAll found leaves) :
    collect v = leaves.mapM fun l => ofJson l.2 := by
  rw [collect, gathered, addAll]
  cases leaves.mapM fun l => ofJson l.2 <;> simp

theorem gather_eq_collect (found : List Reference) (v : Json) :
    gather found v = (collect v).map fun refs => refs.reverse ++ found := by
  obtain ⟨leaves, -, gathered⟩ := exists_listing v
  rw [gathered, collect_eq gathered, addAll]

def collectAll (docs : List Json) : Except ReferenceFault (List Reference) :=
  (docs.mapM collect).map List.flatten

theorem gatherItems_eq (found : List Reference) (docs : List Json) :
    gatherItems found docs = (collectAll docs).map fun refs => refs.reverse ++ found := by
  unfold collectAll
  induction docs generalizing found with
  | nil => rfl
  | cons v rest ih =>
    rw [gatherItems, gather_eq_collect, List.mapM_cons]
    cases collect v with
    | error fault => rfl
    | ok refs =>
      refine (ih _).trans ?_
      cases rest.mapM collect <;> simp

theorem gatherItems_append (found : List Reference) (docs more : List Json) :
    gatherItems found (docs ++ more) = gatherItems found docs >>= fun found => gatherItems found more := by
  induction docs generalizing found with
  | nil => rfl
  | cons v rest ih =>
    rw [List.cons_append, gatherItems, gatherItems, bind_assoc]
    exact congrArg (Except.bind _) (funext ih)

theorem gatherItems_of_packs (packs : Packs packed docs) (found : List Reference) :
    gatherItems found packed = gatherItems found docs := by
  induction packs generalizing found with
  | nil => rfl
  | keep v rest ih =>
    rw [gatherItems, gatherItems]
    exact congrArg (Except.bind _) (funext ih)
  | wrap list inside rest inner later =>
    rw [gatherItems, gatherItems_append, gather_of_list list, inner]
    exact congrArg (Except.bind _) (funext later)

theorem collectAll_eq (docs : List Json) : collectAll docs = (gatherItems [] docs).map List.reverse := by
  rw [gatherItems_eq]
  cases collectAll docs <;> simp

theorem collectAll_of_packs (packs : Packs packed docs) : collectAll packed = collectAll docs := by
  rw [collectAll_eq, collectAll_eq, gatherItems_of_packs packs]

theorem collectAll_cons (v : Json) (docs : List Json) : collectAll (v :: docs) =
    collect v >>= fun refs => collectAll docs >>= fun more => .ok (refs ++ more) :=
  Traversal.mapM_flatten_cons collect v docs

theorem ofDocuments_eq (stream : List (Except Yaml.Fault Yaml.Value)) :
    ofDocuments stream = (stream.mapM ofDocument).map List.flatten := by
  unfold ofDocuments
  cases stream.mapM ofDocument <;> rfl

theorem ofDocuments_of_streamOf {stream : List (Except Yaml.Fault Yaml.Value)}
    (holds : StreamOf stream docs) :
    ofDocuments stream = (collectAll docs).mapError fun fault => .plain fault.message := by
  obtain ⟨values, rfl, read⟩ := holds
  induction values generalizing docs with
  | nil =>
    cases read
    rfl
  | cons v rest ih =>
    rw [ofDocuments_eq, List.map_cons, Traversal.mapM_flatten_cons, ← ofDocuments_eq]
    cases null : v.isNull with
    | true =>
      rw [List.filter_cons_of_neg (by simp [null])] at read
      have nothing : ofDocument (.ok v) = .ok [] := if_pos null
      rw [nothing, ih read]
      cases collectAll docs <;> rfl
    | false =>
      rw [List.filter_cons_of_pos (by simp [null])] at read
      cases read with
      | cons first later =>
        rw [collectAll_cons, ih later]
        simp only [ofDocument, null, first]
        cases collect _ with
        | error fault => rfl
        | ok refs => cases collectAll _ <;> rfl

/-- Every document has its objects, in the order of their places. The references collected from it are those
of these objects, one of each; there are some just when every object names something, and otherwise the fault
is that of the first that does not. So packing documents into lists changes neither what is collected from
them nor what a stream of them gives. -/
theorem collect_transparent :
    (∀ v, ∃ leaves, Listing (LeafAt v) leaves ∧
      (∀ refs, collect v = .ok refs ↔ List.Forall₂ (fun l r => HasCoordinates l.2 r) leaves refs) ∧
      ((∃ refs, collect v = .ok refs) ↔ ∀ l ∈ leaves, ∃ r, HasCoordinates l.2 r) ∧
      ∀ fault, collect v = .error fault ↔ ∃ before bad after, leaves = before ++ bad :: after ∧
        (∀ l ∈ before, ∃ r, HasCoordinates l.2 r) ∧ Lacks bad.2 fault) ∧
    ∀ packed docs, Packs packed docs →
      collectAll packed = collectAll docs ∧
      ∀ stream stream', StreamOf stream packed → StreamOf stream' docs →
        ofDocuments stream = ofDocuments stream' := by
  constructor
  · intro v
    obtain ⟨leaves, places, gathered⟩ := exists_listing v
    refine ⟨leaves, places, ?_, ?_, ?_⟩
    · intro refs
      simp only [collect_eq gathered, Traversal.mapM_eq_ok_iff, ofJson_eq_ok]
    · simp only [collect_eq gathered, Traversal.exists_mapM_eq_ok_iff, ofJson_eq_ok]
    · intro fault
      simp only [collect_eq gathered, Traversal.mapM_eq_error_iff_first, ofJson_eq_ok, ofJson_eq_error]
  · intro packed docs packs
    have same := collectAll_of_packs packs
    refine ⟨same, ?_⟩
    intro stream stream' holds holds'
    rw [ofDocuments_of_streamOf holds, ofDocuments_of_streamOf holds', same]

/-! Two objects, in a list of a list and one after the other. The kind of the second ends in `List` too, but
it has no items. -/
namespace Packed

def manifest (kind name : String) : Yaml.Value :=
  .mapping [(.text "apiVersion", .text "apps/v1"), (.text "kind", .text kind),
    (.text "metadata", .mapping [(.text "name", .text name)])]

def manifestOf (kind : String) (items : List Yaml.Value) : Yaml.Value :=
  .mapping [(.text "items", .sequence items), (.text "kind", .text kind)]

def object (kind name : String) : Json :=
  .object [("apiVersion", .string "apps/v1"), ("kind", .string kind),
    ("metadata", .object [("name", .string name)])]

def listOf (kind : String) (items : List Json) : Json :=
  .object [("items", .array items), ("kind", .string kind)]

def nested : Yaml.Value :=
  manifestOf "List" [manifestOf "DeploymentList" [manifest "Deployment" "web"], manifest "PlayList" "songs"]

def flat : List Yaml.Value := [manifest "Deployment" "web", .null, manifest "PlayList" "songs"]

def nestedObject : Json :=
  listOf "List" [listOf "DeploymentList" [object "Deployment" "web"], object "PlayList" "songs"]

def flatObjects : List Json := [object "Deployment" "web", object "PlayList" "songs"]

theorem packs : Packs [nestedObject] flatObjects :=
  .wrap ⟨⟨"", rfl⟩, rfl⟩ (.wrap ⟨⟨"Deployment", rfl⟩, rfl⟩ (.keep _ .nil) (.keep _ .nil)) .nil

theorem streamOf_nested : StreamOf [.ok nested] [nestedObject] :=
  ⟨[nested], rfl, .cons rfl .nil⟩

theorem streamOf_flat : StreamOf (flat.map .ok) flatObjects :=
  ⟨flat, rfl, .cons rfl (.cons rfl .nil)⟩

end Packed

theorem collect_transparent_nested :
    Packs [Packed.nestedObject] Packed.flatObjects ∧ StreamOf [.ok Packed.nested] [Packed.nestedObject] ∧
      StreamOf (Packed.flat.map .ok) Packed.flatObjects ∧
      ofDocuments [.ok Packed.nested] = ofDocuments (Packed.flat.map .ok) ∧
      ofDocuments (Packed.flat.map .ok) =
        .ok [⟨⟨"apps", "v1", "Deployment"⟩, none, "web"⟩, ⟨⟨"apps", "v1", "PlayList"⟩, none, "songs"⟩] := by
  obtain ⟨-, same⟩ := collect_transparent.2 _ _ Packed.packs
  exact ⟨Packed.packs, Packed.streamOf_nested, Packed.streamOf_flat,
    same _ _ Packed.streamOf_nested Packed.streamOf_flat, by rfl⟩

end Rollback.Reference
