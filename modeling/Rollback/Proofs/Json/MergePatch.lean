import Rollback.Json.MergePatch
import Rollback.Proofs.Json.Equality

/-! The merge patch from one document to another, applied to the first, gives the second but for
members that are null. -/
namespace Rollback.Json

/-- What is left of a member: nothing if it is null. -/
def leftOver (v : Json) : Option Json := if v.isNull then none else some v.withoutNulls

theorem keys_membersWithoutNulls (members : Members) :
    ((membersWithoutNulls members).map (·.1)).Sublist (members.map (·.1)) := by
  induction members with
  | nil => exact .slnil
  | cons member rest ih =>
    obtain ⟨k, v⟩ := member
    simp only [membersWithoutNulls]
    split
    · exact ih.cons _
    · exact ih.cons_cons _

theorem lookup_membersWithoutNulls {members : Members} (sorted : KeysIncrease members)
    (key : String) : lookup key (membersWithoutNulls members) = (lookup key members).bind leftOver := by
  induction members with
  | nil => rfl
  | cons member rest ih =>
    obtain ⟨k, v⟩ := member
    have ih := ih (KeysIncrease.cons_iff.mp sorted).2
    simp only [membersWithoutNulls]
    by_cases here : k = key
    · subst here
      cases null : v.isNull
      · simp [lookup, leftOver, null]
      · simp [lookup, leftOver, null, ih, sorted.lookup_rest]
    · cases null : v.isNull <;> simp [lookup, here, ih]

mutual

theorem same_withoutNulls : (a b : Json) → Same a b → Same a.withoutNulls b.withoutNulls
  | .object as, .object bs, equal => by
    simp only [Same, withoutNulls, same]
    exact sameMembers_withoutNulls as bs equal
  | .null, b, equal => by cases b <;> simp_all [Same, same, withoutNulls]
  | .bool _, b, equal => by cases b <;> simp_all [Same, same, withoutNulls]
  | .integer _, b, equal => by cases b <;> simp_all [Same, same, withoutNulls]
  | .float _, b, equal => by cases b <;> simp_all [Same, same, withoutNulls]
  | .string _, b, equal => by cases b <;> simp_all [Same, same, withoutNulls]
  | .array _, b, equal => by cases b <;> simp_all [Same, same, withoutNulls]

theorem sameMembers_withoutNulls : (as bs : Members) → sameMembers as bs = true →
    sameMembers (membersWithoutNulls as) (membersWithoutNulls bs) = true
  | [], bs, equal => by cases bs <;> simp_all [sameMembers, membersWithoutNulls]
  | (k, a) :: as, [], equal => by cases equal
  | (k, a) :: as, (l, b) :: bs, equal => by
    simp only [sameMembers, Bool.and_eq_true] at equal
    obtain ⟨⟨key, first⟩, rest⟩ := equal
    have first' := same_withoutNulls a b first
    have rest' := sameMembers_withoutNulls as bs rest
    simp only [membersWithoutNulls, Same.isNull_eq first]
    cases b.isNull <;> simp_all [sameMembers]

end

/-- Objects are equal but for null members when each key leaves equal values over. -/
theorem same_withoutNulls_of_lookup {as bs : Members} (left : KeysIncrease as)
    (right : KeysIncrease bs)
    (equal : ∀ key, Option.Rel Same ((lookup key as).bind leftOver) ((lookup key bs).bind leftOver)) :
    Same (withoutNulls (.object as)) (withoutNulls (.object bs)) := by
  have ordered {members : Members} (sorted : KeysIncrease members) :
      KeysIncrease (membersWithoutNulls members) :=
    List.Pairwise.sublist (keys_membersWithoutNulls members) sorted
  simp only [Same, withoutNulls, same]
  refine sameMembers_of_lookup (ordered left) (ordered right) fun key => ?_
  rw [lookup_membersWithoutNulls left, lookup_membersWithoutNulls right]
  exact equal key

theorem leftOver_rel {a b : Json} (null : a.isNull = b.isNull)
    (equal : Same a.withoutNulls b.withoutNulls) : Option.Rel Same (leftOver a) (leftOver b) := by
  unfold leftOver
  cases absent : b.isNull
  · simpa [null, absent] using equal
  · simp [null, absent]

@[simp] theorem isNull_applyPatch (target patch : Json) :
    (applyPatch target patch).isNull = patch.isNull := by
  cases patch <;> rfl

def applied (held : Option Json) : Option Json → Option Json
  | none => held
  | some change => if change.isNull then none else some (applyPatch (held.getD .null) change)

/-- The members with one of them put in place of what is there, or taken away. -/
def setMember (key : String) (v? : Option Json) (members : Members) : Members :=
  match v? with
  | none => erase key members
  | some v => insert key v members

theorem lookup_setMember (key k : String) (v? : Option Json) (members : Members) :
    lookup k (setMember key v? members) = if key = k then v? else lookup k members := by
  cases v? with
  | none => exact lookup_erase key members
  | some v => exact lookup_insert key k v members

theorem applyMembers_cons (target patch : Members) (key : String) (change : Json) :
    applyMembers target ((key, change) :: patch) =
      applyMembers (setMember key (applied (lookup key target) (some change)) target) patch := by
  cases change <;> rfl

theorem keysIncrease_applyMembers {target : Members} (sorted : KeysIncrease target)
    (patch : Members) : KeysIncrease (applyMembers target patch) := by
  induction patch generalizing target with
  | nil => exact sorted
  | cons member rest ih =>
    rw [applyMembers_cons]
    refine ih ?_
    cases applied (lookup member.1 target) (some member.2) with
    | none => exact sorted.erase _
    | some v => exact sorted.insert _ _

theorem lookup_applyMembers {patch : Members} (sorted : KeysIncrease patch) (target : Members)
    (key : String) :
    lookup key (applyMembers target patch) = applied (lookup key target) (lookup key patch) := by
  induction patch generalizing target with
  | nil => rfl
  | cons member rest ih =>
    obtain ⟨k, change⟩ := member
    rw [applyMembers_cons, ih (KeysIncrease.cons_iff.mp sorted).2, lookup_setMember]
    by_cases here : k = key
    · subst here
      simp only [sorted.lookup_rest, lookup, if_true, applied]
    · simp only [lookup, if_neg here]

/-- Where there was no object, a patch leaves what it says itself. -/
theorem same_applyPatch_fresh (target patch : Json) (absent : target.members?.getD [] = [])
    (sorted : patch.Sorted) : Same (applyPatch target patch).withoutNulls patch.withoutNulls := by
  cases patch with
  | object members =>
    obtain ⟨ordered, inside⟩ := Sorted.object_iff.mp sorted
    change Same (withoutNulls (.object (applyMembers (target.members?.getD []) members))) _
    rw [absent]
    refine same_withoutNulls_of_lookup (keysIncrease_applyMembers .nil members) ordered fun key => ?_
    rw [lookup_applyMembers ordered]
    cases found : lookup key members with
    | none => exact .none
    | some change =>
      have smaller := sizeOf_lt_object (mem_of_lookup found)
      have same := same_applyPatch_fresh .null change rfl (inside _ (mem_of_lookup found))
      cases null : change.isNull
      · simpa [applied, null, lookup] using leftOver_rel (isNull_applyPatch _ _) same
      · simp [applied, null, leftOver]
  | _ => exact same_refl _
termination_by sizeOf patch

@[simp] theorem isNull_diff (old new : Json) : (diff old new).isNull = new.isNull := by
  cases old <;> cases new <;> rfl

/-- What the patch says of one key. -/
def differing : Option Json → Option Json → Option Json
  | none, new? => new?
  | some _, none => some .null
  | some old, some new => if same new old then none else some (diff old new)

theorem diffMembers_cons (key : String) (old : Json) (rest b : Members) :
    diffMembers ((key, old) :: rest) b =
      match differing (some old) (lookup key b) with
      | none => diffMembers rest b
      | some change => (key, change) :: diffMembers rest b := by
  change (match lookup key b with | none => _ | some new => _) = _
  cases lookup key b with
  | none => rfl
  | some new =>
    simp only [differing]
    split <;> rfl

theorem keys_diffMembers (a b : Members) :
    ((diffMembers a b).map (·.1)).Sublist (a.map (·.1)) := by
  induction a with
  | nil => exact .slnil
  | cons member rest ih =>
    rw [diffMembers_cons]
    split
    · exact ih.cons _
    · exact ih.cons_cons _

theorem lookup_diffMembers {a : Members} (sorted : KeysIncrease a) (b : Members) (key : String) :
    lookup key (diffMembers a b) =
      (lookup key a).bind fun old => differing (some old) (lookup key b) := by
  induction a with
  | nil => rfl
  | cons member rest ih =>
    obtain ⟨k, old⟩ := member
    have ih := ih (KeysIncrease.cons_iff.mp sorted).2
    rw [diffMembers_cons]
    by_cases here : k = key
    · subst here
      have none : lookup k (diffMembers rest b) = none := by simp [ih, sorted.lookup_rest]
      cases change : differing (some old) (lookup k b) <;> simp [lookup, none, change]
    · cases differing (some old) (lookup k b) <;> simp [lookup, ih, here]

/-- The members of the patch between two objects. -/
def patchMembers (a b : Members) : Members :=
  (membersOutside a b).foldl (fun done (k, v) => insert k v done) (diffMembers a b)

theorem keysIncrease_patchMembers {a : Members} (sorted : KeysIncrease a) (b : Members) :
    KeysIncrease (patchMembers a b) :=
  KeysIncrease.foldl_insert (List.Pairwise.sublist (keys_diffMembers a b) sorted) _

theorem lookup_patchMembers {a b : Members} (left : KeysIncrease a) (right : KeysIncrease b)
    (key : String) : lookup key (patchMembers a b) = differing (lookup key a) (lookup key b) := by
  have outside : lookup key (membersOutside a b).reverse =
      if (lookup key a).isNone then lookup key b else none := by
    have ordered : KeysIncrease (membersOutside a b) := right.sublist List.filter_sublist
    rw [ordered.lookup_reverse]
    exact lookup_filter (fun key => (lookup key a).isNone) b
  rw [patchMembers, lookup_foldl_insert, outside, lookup_diffMembers left]
  cases lookup key a <;> simp [differing]

/-- The patch between two documents, applied to the first, gives the second but for members that are
null. -/
theorem same_applyPatch_diff (a b : Json) (left : a.Sorted) (right : b.Sorted) :
    Same (applyPatch a (diff a b)).withoutNulls b.withoutNulls := by
  have replaced (absent : a.members?.getD [] = []) (whole : diff a b = b) :
      Same (applyPatch a (diff a b)).withoutNulls b.withoutNulls :=
    whole.symm ▸ same_applyPatch_fresh a b absent right
  cases a with
  | object as =>
    cases b with
    | object bs =>
      obtain ⟨orderedLeft, insideLeft⟩ := Sorted.object_iff.mp left
      obtain ⟨orderedRight, insideRight⟩ := Sorted.object_iff.mp right
      change Same (withoutNulls (.object (applyMembers as (patchMembers as bs)))) _
      refine same_withoutNulls_of_lookup (keysIncrease_applyMembers orderedLeft _) orderedRight
        fun key => ?_
      rw [lookup_applyMembers (keysIncrease_patchMembers orderedLeft bs),
        lookup_patchMembers orderedLeft orderedRight]
      cases old? : lookup key as with
      | none =>
        cases new? : lookup key bs with
        | none => exact .none
        | some new =>
          have same := same_applyPatch_fresh .null new rfl (insideRight _ (mem_of_lookup new?))
          cases null : new.isNull
          · simpa [differing, applied, null] using leftOver_rel (isNull_applyPatch _ _) same
          · simp [differing, applied, null, leftOver]
      | some old =>
        cases new? : lookup key bs with
        | none => simp [differing, applied, isNull]
        | some new =>
          cases equal : same new old with
          | true =>
            have same : Same old new := Same.symm equal
            simpa [differing, applied, equal] using
              leftOver_rel same.isNull_eq (same_withoutNulls _ _ same)
          | false =>
            have smaller := sizeOf_lt_object (mem_of_lookup old?)
            have same := same_applyPatch_diff old new (insideLeft _ (mem_of_lookup old?))
              (insideRight _ (mem_of_lookup new?))
            cases null : new.isNull
            · simpa [differing, applied, equal, null] using
                leftOver_rel ((isNull_applyPatch _ _).trans (isNull_diff old new)) same
            · simp [differing, applied, equal, null, leftOver]
    | _ => exact same_refl _
  | _ => exact replaced rfl rfl
termination_by sizeOf a

end Rollback.Json
