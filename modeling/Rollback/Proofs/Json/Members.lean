import Mathlib.Data.String.Basic
import Rollback.Json.Reader

/-! The members of an object: looking one up after a change, and the order of their keys, which every
document that was read keeps at every depth. -/
namespace Rollback

variable {α : Type} {key k : String} {value : α} {entries rest : List (String × α)}

theorem mem_of_lookup (found : lookup key entries = some value) : (key, value) ∈ entries := by
  induction entries with
  | nil => cases found
  | cons entry rest ih =>
    obtain ⟨l, v⟩ := entry
    by_cases same : l = key
    · subst same
      simp only [lookup, if_true, Option.some.injEq] at found
      simp [found]
    · simp only [lookup, if_neg same] at found
      exact List.mem_cons_of_mem _ (ih found)

theorem lookup_eq_none_of_not_mem (absent : key ∉ entries.map (·.1)) : lookup key entries = none := by
  cases found : lookup key entries with
  | none => rfl
  | some value => exact absurd (List.mem_map_of_mem (mem_of_lookup found)) absent

theorem lookup_filter (keep : String → Bool) (entries : List (String × α)) :
    lookup k (entries.filter fun (key, _) => keep key) =
      if keep k then lookup k entries else none := by
  induction entries with
  | nil => simp [lookup]
  | cons entry rest ih =>
    obtain ⟨l, v⟩ := entry
    simp only [List.filter_cons]
    by_cases same : l = k
    · subst same
      cases kept : keep l
      · simpa [kept] using ih
      · simp [lookup]
    · cases keep l <;> simp [lookup, same, ih]

theorem lookup_erase (key : String) (entries : List (String × α)) :
    lookup k (erase key entries) = if key = k then none else lookup k entries := by
  rw [erase, lookup_filter (fun k => decide (k ≠ key))]
  by_cases same : key = k
  · simp [same]
  · simp [same, Ne.symm same]

theorem lookup_append (first second : List (String × α)) :
    lookup k (first ++ second) = (lookup k first).or (lookup k second) := by
  induction first with
  | nil => simp [lookup]
  | cons entry rest ih =>
    obtain ⟨l, v⟩ := entry
    by_cases same : l = k <;> simp [lookup, same, ih]

theorem lookup_foldl_insert (entries done : List (String × α)) :
    lookup k (entries.foldl (fun done (k, v) => insert k v done) done) =
      (lookup k entries.reverse).or (lookup k done) := by
  induction entries generalizing done with
  | nil => simp [lookup]
  | cons entry rest ih =>
    obtain ⟨l, v⟩ := entry
    rw [List.foldl_cons, ih, List.reverse_cons, lookup_append, Option.or_assoc, lookup_insert]
    by_cases same : l = k <;> simp [lookup, same]

theorem erase_insert (key : String) (value : α) (entries : List (String × α)) :
    erase key (insert key value entries) = erase key entries := by
  induction entries with
  | nil => simp [erase, insert]
  | cons entry rest ih =>
    obtain ⟨l, v⟩ := entry
    simp only [insert]
    split
    · simp [erase]
    · split
      · next same => simp [erase, same]
      · next different => simpa [erase, List.filter_cons, Ne.symm different] using ih

theorem erase_of_lookup (absent : lookup key entries = none) : erase key entries = entries := by
  induction entries with
  | nil => rfl
  | cons entry rest ih =>
    obtain ⟨l, v⟩ := entry
    by_cases same : l = key
    · simp [lookup, same] at absent
    · rw [lookup, if_neg same] at absent
      simpa [erase, List.filter_cons, same] using ih absent

/-- Of several entries with one key the last one counts. -/
theorem lookup_sortEntries (entries : List (String × α)) :
    lookup k (sortEntries entries) = lookup k entries.reverse := by
  rw [sortEntries, lookup_foldl_insert, lookup, Option.or_none]

theorem insert_map {β : Type} (f : String → α → β) (key : String) (value : α)
    (entries : List (String × α)) :
    insert key (f key value) (entries.map fun e => (e.1, f e.1 e.2)) =
      (insert key value entries).map fun e => (e.1, f e.1 e.2) := by
  induction entries with
  | nil => rfl
  | cons entry rest ih =>
    simp only [List.map_cons, insert]
    split
    · rfl
    · split
      · rfl
      · rw [ih, List.map_cons]

theorem foldl_insert_map {β : Type} (f : String → α → β) (entries done : List (String × α)) :
    (entries.map fun e => (e.1, f e.1 e.2)).foldl (fun done (k, v) => insert k v done)
        (done.map fun e => (e.1, f e.1 e.2)) =
      (entries.foldl (fun done (k, v) => insert k v done) done).map fun e => (e.1, f e.1 e.2) := by
  induction entries generalizing done with
  | nil => rfl
  | cons entry rest ih =>
    obtain ⟨key, value⟩ := entry
    simp only [List.map_cons, List.foldl_cons, insert_map, ih]

/-- Entries are brought into order by their keys alone. -/
theorem sortEntries_map {β : Type} (f : String → α → β) (entries : List (String × α)) :
    sortEntries (entries.map fun e => (e.1, f e.1 e.2)) =
      (sortEntries entries).map fun e => (e.1, f e.1 e.2) := foldl_insert_map f entries []

theorem insert_perm (fresh : key ∉ entries.map (·.1)) :
    (insert key value entries).Perm ((key, value) :: entries) := by
  induction entries with
  | nil => rfl
  | cons entry rest ih =>
    obtain ⟨l, v⟩ := entry
    obtain ⟨different, fresh⟩ := not_or.mp fun same => fresh (List.mem_cons.mpr same)
    simp only [insert, if_neg different]
    split
    · rfl
    · exact ((ih fresh).cons (l, v)).trans (.swap _ _ rest)

theorem foldl_insert_perm {done : List (String × α)} (distinct : ((entries ++ done).map (·.1)).Nodup) :
    (entries.foldl (fun done (k, v) => insert k v done) done).Perm (entries ++ done) := by
  induction entries generalizing done with
  | nil => rfl
  | cons entry rest ih =>
    obtain ⟨k, v⟩ := entry
    have fresh : k ∉ (rest ++ done).map (·.1) := (List.nodup_cons.mp distinct).1
    have moved : (rest ++ insert k v done).Perm ((k, v) :: (rest ++ done)) := by
      have fresh' : k ∉ done.map (·.1) := fun inside => fresh (by simp [inside])
      exact ((insert_perm fresh').append_left rest).trans List.perm_middle
    have distinct' : ((rest ++ insert k v done).map (·.1)).Nodup := (moved.map _).nodup_iff.mpr distinct
    exact (ih distinct').trans moved

/-- Entries with different keys stay the same, in the order of these. -/
theorem sortEntries_perm (distinct : (entries.map (·.1)).Nodup) : (sortEntries entries).Perm entries := by
  have distinct' : ((entries ++ ([] : List (String × α))).map (·.1)).Nodup := by rwa [List.append_nil]
  exact (foldl_insert_perm distinct').trans (.of_eq (List.append_nil entries))

theorem mem_keys_insert : k ∈ (insert key value entries).map (·.1) ↔
    k = key ∨ k ∈ entries.map (·.1) := by
  induction entries with
  | nil => simp [insert]
  | cons entry rest ih =>
    obtain ⟨l, v⟩ := entry
    simp only [insert]
    split
    · simp
    · split
      · next same => simp [same]
      · simp only [List.map_cons, List.mem_cons, ih]
        tauto

namespace KeysIncrease

theorem nil : KeysIncrease ([] : List (String × α)) := List.Pairwise.nil

theorem cons_iff : KeysIncrease ((key, value) :: rest) ↔
    (∀ k ∈ rest.map (·.1), key < k) ∧ KeysIncrease rest := List.pairwise_cons

/-- The head of an ordered list has a key of its own. -/
theorem lookup_rest (sorted : KeysIncrease ((key, value) :: rest)) : lookup key rest = none :=
  lookup_eq_none_of_not_mem fun member => lt_irrefl key ((cons_iff.mp sorted).1 key member)

/-- A key below the head's is missing. -/
theorem lookup_below (sorted : KeysIncrease ((key, value) :: rest)) (below : k < key) :
    lookup k ((key, value) :: rest) = none := by
  refine lookup_eq_none_of_not_mem fun member => ?_
  rcases List.mem_cons.mp member with same | later
  · exact below.ne same
  · exact lt_asymm below ((cons_iff.mp sorted).1 k later)

theorem lookup_of_mem (sorted : KeysIncrease entries) (member : (key, value) ∈ entries) :
    lookup key entries = some value := by
  induction entries with
  | nil => cases member
  | cons entry rest ih =>
    obtain ⟨l, v⟩ := entry
    obtain ⟨first, ordered⟩ := cons_iff.mp sorted
    rcases List.mem_cons.mp member with same | later
    · cases same
      simp [lookup]
    · have below : l < key := first key (List.mem_map_of_mem later)
      rw [lookup, if_neg below.ne, ih ordered later]

/-- No key stands twice, so that the last value of a key is its first. -/
theorem lookup_reverse (sorted : KeysIncrease entries) :
    lookup k entries.reverse = lookup k entries := by
  induction entries with
  | nil => rfl
  | cons entry rest ih =>
    obtain ⟨l, v⟩ := entry
    rw [List.reverse_cons, lookup_append, ih (cons_iff.mp sorted).2]
    by_cases same : l = k
    · subst same
      simp [lookup, sorted.lookup_rest]
    · simp [lookup, same]

theorem insert (sorted : KeysIncrease entries) (key : String) (value : α) :
    KeysIncrease (Rollback.insert key value entries) := by
  induction entries with
  | nil => exact List.pairwise_singleton _ _
  | cons entry rest ih =>
    obtain ⟨l, v⟩ := entry
    obtain ⟨first, ordered⟩ := cons_iff.mp sorted
    simp only [Rollback.insert]
    split
    · next before =>
      refine cons_iff.mpr ⟨fun k member => ?_, sorted⟩
      rcases List.mem_cons.mp member with rfl | later
      · exact before
      · exact before.trans (first k later)
    · next notBefore =>
      split
      · next same => exact cons_iff.mpr ⟨same ▸ first, ordered⟩
      · next different =>
        refine cons_iff.mpr ⟨fun k member => ?_, ih ordered⟩
        rcases mem_keys_insert.mp member with rfl | later
        · exact lt_of_le_of_ne (not_lt.mp notBefore) (Ne.symm different)
        · exact first k later

/-- Ordered entries whose look-ups are related are related one by one, with the same keys. -/
theorem forall₂_of_lookup {β : Type} {R : α → β → Prop} {as : List (String × α)}
    {bs : List (String × β)} (left : KeysIncrease as) (right : KeysIncrease bs)
    (related : ∀ key, Option.Rel R (lookup key as) (lookup key bs)) :
    List.Forall₂ (fun a b => a.1 = b.1 ∧ R a.2 b.2) as bs := by
  induction as generalizing bs with
  | nil =>
    cases bs with
    | nil => exact .nil
    | cons entry bs =>
      have missing := related entry.1
      simp [lookup] at missing
  | cons entry as ih =>
    obtain ⟨k, a⟩ := entry
    cases bs with
    | nil =>
      have missing := related k
      simp [lookup] at missing
    | cons entry bs =>
      obtain ⟨l, b⟩ := entry
      -- Each head is the least key of its list, so a lesser one would be missing in the other.
      have same : k = l := by
        rcases lt_trichotomy k l with below | same | below
        · have missing := related k
          rw [right.lookup_below below] at missing
          simp [lookup] at missing
        · exact same
        · have missing := related l
          rw [left.lookup_below below] at missing
          simp [lookup] at missing
      subst same
      have first : R a b := by simpa [lookup] using related k
      refine .cons ⟨rfl, first⟩ (ih (cons_iff.mp left).2 (cons_iff.mp right).2 fun key => ?_)
      by_cases here : k = key
      · subst here
        rw [left.lookup_rest, right.lookup_rest]
        exact .none
      · simpa [lookup, here] using related key

/-- Ordered entries are decided by their look-ups. -/
theorem ext (left : KeysIncrease entries) (right : KeysIncrease rest)
    (same : ∀ key, lookup key entries = lookup key rest) : entries = rest := by
  have related (key : String) : Option.Rel Eq (lookup key entries) (lookup key rest) := by
    rw [same]
    cases lookup key rest with
    | none => exact .none
    | some value => exact .some rfl
  have pairs := forall₂_of_lookup left right related
  clear left right same related
  induction pairs with
  | nil => rfl
  | cons equal _ ih => rw [Prod.ext equal.1 equal.2, ih]

theorem sublist (sorted : KeysIncrease entries) (part : rest.Sublist entries) : KeysIncrease rest :=
  List.Pairwise.sublist (part.map _) sorted

theorem erase (sorted : KeysIncrease entries) (key : String) : KeysIncrease (Rollback.erase key entries) :=
  sorted.sublist List.filter_sublist

theorem foldl_insert (sorted : KeysIncrease rest) (entries : List (String × α)) :
    KeysIncrease (entries.foldl (fun done (k, v) => Rollback.insert k v done) rest) := by
  induction entries generalizing rest with
  | nil => exact sorted
  | cons entry entries ih => exact ih (sorted.insert entry.1 entry.2)

end KeysIncrease

namespace Json

variable {v w : Json} {members : Members} {key : String}

/-- The value with another one at a path, in place of what is there. -/
def put (v : Json) : List String → Json → Json
  | [], value => value
  | key :: path, value =>
    .object (Rollback.insert key (put ((v.get? key).getD .null) path value) (v.members?.getD []))

@[simp] theorem put_nil (v value : Json) : v.put [] value = value := rfl

@[simp] theorem get?_put (v : Json) (key : String) (path : List String) (value : Json) (k : String) :
    (v.put (key :: path) value).get? k =
      if key = k then some (put ((v.get? key).getD .null) path value) else v.get? k := by
  rw [put, get?, lookup_insert]
  cases v <;> rfl

theorem sizeOf_lt_object (present : (key, v) ∈ members) : sizeOf v < sizeOf (Json.object members) := by
  have inside := List.sizeOf_lt_of_mem present
  simp only [Prod.mk.sizeOf_spec, object.sizeOf_spec] at inside ⊢
  omega

theorem sortedMembers_iff : SortedMembers members ↔ ∀ member ∈ members, member.2.Sorted := by
  induction members with
  | nil => simp [SortedMembers]
  | cons member rest ih => simp [SortedMembers, ih]

theorem sortedItems_iff {items : List Json} : SortedItems items ↔ ∀ item ∈ items, item.Sorted := by
  induction items with
  | nil => simp [SortedItems]
  | cons item rest ih => simp [SortedItems, ih]

namespace Sorted

theorem object_iff : (Json.object members).Sorted ↔
    KeysIncrease members ∧ ∀ member ∈ members, member.2.Sorted := by
  rw [Sorted, sortedMembers_iff]

theorem of_lookup (sorted : (Json.object members).Sorted) (found : lookup key members = some v) :
    v.Sorted :=
  (object_iff.mp sorted).2 (key, v) (mem_of_lookup found)

theorem of_get? (sorted : v.Sorted) (found : v.get? key = some w) : w.Sorted := by
  cases v with
  | object members => exact of_lookup sorted found
  | _ => cases found

theorem of_at? {path : List String} (sorted : v.Sorted) (found : v.at? path = some w) : w.Sorted := by
  induction path generalizing v with
  | nil => exact Option.some.inj found ▸ sorted
  | cons key path ih =>
    obtain ⟨inner, got, found⟩ := Option.bind_eq_some_iff.mp found
    exact ih (sorted.of_get? got) found

theorem insert (sorted : (Json.object members).Sorted) (value : v.Sorted) (key : String) :
    (Json.object (Rollback.insert key v members)).Sorted := by
  obtain ⟨ordered, inside⟩ := object_iff.mp sorted
  have ordered' := ordered.insert key v
  refine object_iff.mpr ⟨ordered', fun member present => ?_⟩
  have found := ordered'.lookup_of_mem present
  rw [lookup_insert] at found
  split at found
  · exact Option.some.inj found ▸ value
  · exact inside _ (mem_of_lookup found)

theorem erase (sorted : (Json.object members).Sorted) (key : String) :
    (Json.object (Rollback.erase key members)).Sorted := by
  obtain ⟨ordered, inside⟩ := object_iff.mp sorted
  exact object_iff.mpr ⟨ordered.erase key, fun member present => inside member (List.mem_of_mem_filter present)⟩

end Sorted

theorem sorted_of_readWord {word : String} {cs rest : List Char}
    (read : readWord word v cs = some (w, rest)) (sorted : v.Sorted) : w.Sorted := by
  unfold readWord at read
  split at read
  · cases read
    exact sorted
  · cases read

theorem sorted_of_value? {n : Numeral} (value : n.value? = some v) : v.Sorted := by
  have float (read : n.float?.map Json.float = some v) : v.Sorted := by
    obtain ⟨x, _, rfl⟩ := Option.map_eq_some_iff.mp read
    trivial
  unfold Numeral.value? at value
  split at value
  · dsimp only at value
    split at value
    · split at value
      · cases value
        trivial
      · exact float value
    · split at value
      · cases value
        trivial
      · exact float value
  · exact float value

theorem sorted_of_readNumber {cs rest : List Char} (read : readNumber cs = some (v, rest)) :
    v.Sorted := by
  unfold readNumber at read
  dsimp only at read
  obtain ⟨⟨whole, _⟩, _, read⟩ := Option.bind_eq_some_iff.mp read
  obtain ⟨⟨fraction, _⟩, _, read⟩ := Option.bind_eq_some_iff.mp read
  obtain ⟨⟨exponent, _⟩, _, read⟩ := Option.bind_eq_some_iff.mp read
  obtain ⟨number, value, read⟩ := Option.bind_eq_some_iff.mp read
  cases read
  exact sorted_of_value? value

mutual

theorem sorted_of_readValue {v : Json} {fuel depth : Nat} {cs rest : List Char}
    (read : readValue fuel depth cs = some (v, rest)) : v.Sorted := by
  cases fuel with
  | zero => simp [readValue] at read
  | succ fuel =>
    unfold readValue at read
    split at read
    · exact sorted_of_readWord read trivial
    · exact sorted_of_readWord read trivial
    · exact sorted_of_readWord read trivial
    · obtain ⟨_, _, same⟩ := Option.map_eq_some_iff.mp read
      cases same
      trivial
    · split at read
      · cases read
      · split at read
        · cases read
          trivial
        · exact sorted_of_readItems read trivial
    · split at read
      · cases read
      · split at read
        · cases read
          exact Sorted.object_iff.mpr ⟨.nil, nofun⟩
        · exact sorted_of_readMembers read (Sorted.object_iff.mpr ⟨.nil, nofun⟩)
    · exact sorted_of_readNumber read

theorem sorted_of_readItems {v : Json} {fuel depth : Nat} {done : List Json} {cs rest : List Char}
    (read : readItems fuel depth done cs = some (v, rest)) (before : SortedItems done) :
    v.Sorted := by
  cases fuel with
  | zero => simp [readItems] at read
  | succ fuel =>
    unfold readItems at read
    split at read
    · cases read
    · next item _ found =>
      have sorted := sorted_of_readValue found
      split at read
      · exact sorted_of_readItems read ⟨sorted, before⟩
      · cases read
        rw [Sorted, sortedItems_iff]
        have all := sortedItems_iff.mp (show SortedItems (item :: done) from ⟨sorted, before⟩)
        exact fun item member => all item (List.mem_reverse.mp member)
      · cases read

theorem sorted_of_readMembers {v : Json} {fuel depth : Nat} {done : Members} {cs rest : List Char}
    (read : readMembers fuel depth done cs = some (v, rest)) (before : (Json.object done).Sorted) :
    v.Sorted := by
  cases fuel with
  | zero => simp [readMembers] at read
  | succ fuel =>
    unfold readMembers at read
    split at read
    · split at read
      · cases read
      · next key _ _ =>
        split at read
        · split at read
          · cases read
          · next found =>
            have sorted := before.insert (sorted_of_readValue found) key
            split at read
            · exact sorted_of_readMembers read sorted
            · cases read
              exact sorted
            · cases read
        · cases read
    · cases read

end

/-- The members of a document that was read are in order, at every depth. -/
theorem sorted_of_ofText? {text : String} (read : ofText? text = some v) : v.Sorted := by
  unfold ofText? ofChars? at read
  split at read
  · next found =>
    split at read
    · cases read
      exact sorted_of_readValue found
    · cases read
  · cases read

end Json

end Rollback
