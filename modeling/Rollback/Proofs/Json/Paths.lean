import Rollback.Proofs.Json.MergePatch

/-! Values seen path by path: two values are equal when at every path they hold equal values, where of
an object it only counts that it is one. What the merge patch from one document to another makes of
the first is compared with the second in this way. -/
namespace Rollback.Json

/-- Of an object only that it is one, and every other value as it is. -/
def shape : Json → Json
  | .object _ => .object []
  | v => v

/-- The shape of what stands at a path. -/
def view (path : List String) (v : Json) : Option Json := (v.at? path).map shape

variable {a b l w : Json} {key : String} {path : List String}

theorem view_cons (key : String) (path : List String) (v : Json) :
    v.view (key :: path) = (v.get? key).bind (view path) := by
  simp only [view, at?_cons, Option.map_bind]
  rfl

/-- Below a null there is nothing. -/
theorem at?_null (nonempty : path ≠ []) : at? path .null = none := by
  cases path with
  | nil => exact absurd rfl nonempty
  | cons key path => rfl

theorem lookup_of_sameMembers {as bs : Members} (equal : sameMembers as bs = true) (key : String) :
    Option.Rel Same (lookup key as) (lookup key bs) := by
  induction as generalizing bs with
  | nil =>
    cases bs with
    | nil => exact .none
    | cons member bs => cases equal
  | cons member as ih =>
    obtain ⟨k, a⟩ := member
    cases bs with
    | nil => cases equal
    | cons member bs =>
      obtain ⟨l, b⟩ := member
      simp only [sameMembers, Bool.and_eq_true, beq_iff_eq] at equal
      obtain ⟨⟨rfl, first⟩, rest⟩ := equal
      by_cases here : k = key
      · simpa [lookup, here] using first
      · simpa [lookup, here] using ih rest

theorem get?_of_same (equal : Same a b) (key : String) :
    Option.Rel Same (a.get? key) (b.get? key) := by
  cases a with
  | object as =>
    cases b with
    | object bs => exact lookup_of_sameMembers equal key
    | _ => cases equal
  | _ => cases b <;> first | exact .none | cases equal

theorem shape_of_same (equal : Same a b) : Same a.shape b.shape := by
  cases a <;> cases b <;> first | exact equal | cases equal | exact same_refl _

theorem view_of_same (equal : Same a b) (path : List String) :
    Option.Rel Same (a.view path) (b.view path) := by
  induction path generalizing a b with
  | nil => exact .some (shape_of_same equal)
  | cons key path ih =>
    rw [view_cons, view_cons]
    have inner := get?_of_same equal key
    cases left : a.get? key with
    | none =>
      cases right : b.get? key with
      | none => exact .none
      | some y => simp [left, right] at inner
    | some x =>
      cases right : b.get? key with
      | none => simp [left, right] at inner
      | some y => exact ih (by simpa [left, right] using inner)

/-- Two values are equal when what stands at each path has one shape in both. -/
theorem same_of_view (a b : Json) (left : a.Sorted) (right : b.Sorted)
    (equal : ∀ path, Option.Rel Same (a.view path) (b.view path)) : Same a b := by
  have top : Same a.shape b.shape := by simpa [view, at?] using equal []
  cases a with
  | object as =>
    cases b with
    | object bs =>
      obtain ⟨orderedLeft, insideLeft⟩ := Sorted.object_iff.mp left
      obtain ⟨orderedRight, insideRight⟩ := Sorted.object_iff.mp right
      refine sameMembers_of_lookup orderedLeft orderedRight fun key => ?_
      have inner (path : List String) :
          Option.Rel Same ((lookup key as).bind (view path)) ((lookup key bs).bind (view path)) := by
        have along := equal (key :: path)
        rwa [view_cons, view_cons] at along
      cases first : lookup key as with
      | none =>
        cases second : lookup key bs with
        | none => exact .none
        | some y => simpa [first, second, view, at?] using inner []
      | some x =>
        cases second : lookup key bs with
        | none => simpa [first, second, view, at?] using inner []
        | some y =>
          have smaller := sizeOf_lt_object (mem_of_lookup first)
          refine .some (same_of_view x y (insideLeft _ (mem_of_lookup first))
            (insideRight _ (mem_of_lookup second)) fun path => ?_)
          simpa [first, second] using inner path
    | _ => cases top
  | _ => cases b <;> exact top
termination_by sizeOf a

/-- What the merge patch from one value to another makes of the first. -/
def patched (l w : Json) : Json := applyPatch l (diff l w)

theorem get?_applyPatch (target : Json) {patch : Members} (sorted : KeysIncrease patch) (key : String) :
    (applyPatch target (.object patch)).get? key = applied (target.get? key) (lookup key patch) := by
  change lookup key (applyMembers (target.members?.getD []) patch) = _
  rw [lookup_applyMembers sorted]
  cases target <;> rfl

theorem patched_of_not_object (value : w.isObject = false) (l : Json) : patched l w = w := by
  have whole : diff l w = w := by cases l <;> cases w <;> first | rfl | cases value
  rw [patched, whole]
  cases w <;> first | rfl | cases value

/-- A member that is equal in both documents stays; a null that is to be put in removes what is there;
every other member is patched in turn. -/
theorem get?_patched {ws : Members} (left : l.Sorted) (right : (Json.object ws).Sorted) (key : String) :
    (patched l (.object ws)).get? key =
      (lookup key ws).bind fun new =>
        if (l.get? key).any (same new) then l.get? key
        else if new.isNull then none else some (patched ((l.get? key).getD .null) new) := by
  have orderedRight := (Sorted.object_iff.mp right).1
  have member : (patched l (.object ws)).get? key =
      applied (l.get? key) (differing (l.get? key) (lookup key ws)) := by
    cases l with
    | object ls =>
      have orderedLeft := (Sorted.object_iff.mp left).1
      have patch : diff (.object ls) (.object ws) = .object (patchMembers ls ws) := rfl
      rw [patched, patch, get?_applyPatch _ (keysIncrease_patchMembers orderedLeft ws),
        lookup_patchMembers orderedLeft orderedRight]
      rfl
    | _ => exact get?_applyPatch _ orderedRight key
  rw [member]
  cases new? : lookup key ws with
  | none => cases l.get? key <;> rfl
  | some new =>
    cases old? : l.get? key with
    | none =>
      have whole : diff .null new = new := by cases new <;> rfl
      simp [differing, applied, patched, whole]
    | some old =>
      cases equal : same new old with
      | true => simp [differing, applied, equal]
      | false => simp [differing, applied, patched, equal]

theorem sorted_getD {held? : Option Json} (sorted : ∀ v ∈ held?, v.Sorted) :
    (held?.getD .null).Sorted := by
  cases held? with
  | none => trivial
  | some v => exact sorted v rfl

theorem at?_getD {held? : Option Json} (nonempty : path ≠ []) :
    (held?.getD .null).at? path = held?.bind (at? path) := by
  cases held? with
  | none => exact at?_null nonempty
  | some v => rfl

theorem rel_refl (held? : Option Json) : Option.Rel Same held? held? := by
  cases held? with
  | none => exact .none
  | some v => exact .some (same_refl v)

theorem eq_null_of_isNull (null : a.isNull = true) : a = .null := by
  cases a <;> first | rfl | cases null

theorem object_of_isObject (value : a.isObject = true) : ∃ members, a = .object members := by
  cases a with
  | object members => exact ⟨members, rfl⟩
  | _ => cases value

theorem isNull_patched (l w : Json) : (patched l w).isNull = w.isNull :=
  (isNull_applyPatch _ _).trans (isNull_diff l w)

/-- What stands at a path after the patch has the shape of what the new document has there, if no null
stands in the new document on the way but those that stand in the old one. -/
theorem view_patched (l w : Json) (left : l.Sorted) (right : w.Sorted) (path : List String)
    (stay : ∀ before, before ≠ [] → before <+: path → w.at? before = some .null →
      l.at? before = some .null) :
    Option.Rel Same ((patched l w).view path) (w.view path) := by
  cases value : w.isObject with
  | false =>
    rw [patched_of_not_object value]
    exact rel_refl _
  | true =>
    obtain ⟨ws, rfl⟩ := object_of_isObject value
    cases path with
    | nil =>
      have top : (patched l (.object ws)).shape = .object [] := by cases l <;> rfl
      exact .some (by rw [top]; rfl)
    | cons key path =>
      rw [view_cons, view_cons, get?_patched left right]
      change Option.Rel Same _ ((lookup key ws).bind _)
      cases new? : lookup key ws with
      | none => exact .none
      | some new =>
        simp only [Option.bind_some]
        -- The patch leaves out what is equal in both; a null that is new would remove its member.
        by_cases kept : (l.get? key).any (same new) = true
        · obtain ⟨old, old?, equal⟩ := (Option.any_eq_true _ _).mp kept
          rw [if_pos kept, old?]
          exact view_of_same (Same.symm equal) path
        · have present : ¬ new.isNull = true := by
            intro null
            obtain rfl := eq_null_of_isNull null
            have there := stay [key] (List.cons_ne_nil _ _) ⟨path, rfl⟩ (by simp [at?, get?, new?])
            have old? : l.get? key = some .null := by simpa [at?] using there
            exact kept (by rw [old?]; rfl)
          rw [if_neg kept, if_neg present, Option.bind_some]
          refine view_patched _ new (sorted_getD fun v held => left.of_get? held)
            (right.of_lookup new?) path fun before nonempty onTheWay null => ?_
          rw [at?_getD nonempty]
          refine stay (key :: before) (List.cons_ne_nil _ _)
            (List.cons_prefix_cons.mpr ⟨rfl, onTheWay⟩) ?_
          rw [at?_cons]
          simpa [get?, new?] using null
termination_by path

/-- A null below the top of the patched document stood there before. -/
theorem null_of_patched (l w : Json) (left : l.Sorted) (right : w.Sorted) (path : List String)
    (nonempty : path ≠ []) (null : (patched l w).at? path = some .null) : l.at? path = some .null := by
  induction path generalizing l w with
  | nil => exact absurd rfl nonempty
  | cons key path ih =>
    cases value : w.isObject with
    | false =>
      rw [patched_of_not_object value] at null
      cases w <;> first | cases null | cases value
    | true =>
      obtain ⟨ws, rfl⟩ := object_of_isObject value
      rw [at?_cons, get?_patched left right] at null
      cases new? : lookup key ws with
      | none => simp [new?] at null
      | some new =>
        rw [new?, Option.bind_some] at null
        by_cases kept : (l.get? key).any (same new) = true
        · rwa [if_pos kept] at null
        · rw [if_neg kept] at null
          by_cases absent : new.isNull = true
          · simp [absent] at null
          · rw [if_neg absent, Option.bind_some] at null
            cases path with
            | nil =>
              have made : (patched ((l.get? key).getD .null) new).isNull = true := by
                rw [Option.some.inj null]
                rfl
              exact absurd ((isNull_patched _ _).symm.trans made) absent
            | cons next path =>
              have there := ih _ new (sorted_getD fun v held => left.of_get? held)
                (right.of_lookup new?) (List.cons_ne_nil _ _) null
              rwa [at?_getD (List.cons_ne_nil _ _)] at there

theorem sorted_patched (l w : Json) (left : l.Sorted) (right : w.Sorted) : (patched l w).Sorted := by
  cases value : w.isObject with
  | false =>
    rw [patched_of_not_object value]
    exact right
  | true =>
    obtain ⟨ws, rfl⟩ := object_of_isObject value
    obtain ⟨patch, isPatch⟩ : ∃ patch, diff l (.object ws) = .object patch := by
      cases l <;> exact ⟨_, rfl⟩
    have ordered : KeysIncrease (l.members?.getD []) := by
      cases l with
      | object ls => exact (Sorted.object_iff.mp left).1
      | _ => exact .nil
    have members : patched l (.object ws) = .object (applyMembers (l.members?.getD []) patch) := by
      rw [patched, isPatch]
      rfl
    rw [members]
    have ordered' := keysIncrease_applyMembers ordered patch
    refine Sorted.object_iff.mpr ⟨ordered', fun member present => ?_⟩
    have found : (patched l (.object ws)).get? member.1 = some member.2 := by
      rw [members]
      exact ordered'.lookup_of_mem present
    rw [get?_patched left right] at found
    obtain ⟨new, new?, found⟩ := Option.bind_eq_some_iff.mp found
    have smaller := sizeOf_lt_object (mem_of_lookup new?)
    split at found
    · exact left.of_get? found
    · split at found
      · cases found
      · rw [← Option.some.inj found]
        exact sorted_patched _ new (sorted_getD fun v held => left.of_get? held) (right.of_lookup new?)
termination_by sizeOf w

end Rollback.Json
