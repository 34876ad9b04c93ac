import Rollback.Proofs.Json.Members

/-! Equality of JSON values, where both zeros are equal. Two objects are equal just when each key has
equal values in both. -/
namespace Rollback.Json

abbrev Same (a b : Json) : Prop := a.same b = true

mutual

@[simp] theorem same_refl : (a : Json) → Same a a
  | .null => rfl
  | .bool a => by simp [Same, same]
  | .integer a => by simp [Same, same]
  | .float a => by simp [Same, same]
  | .string a => by simp [Same, same]
  | .array items => by simp [Same, same, sameItems_refl items]
  | .object members => by simp [Same, same, sameMembers_refl members]

@[simp] theorem sameItems_refl : (items : List Json) → sameItems items items = true
  | [] => rfl
  | v :: rest => by simp [sameItems, same_refl v, sameItems_refl rest]

@[simp] theorem sameMembers_refl : (members : Members) → sameMembers members members = true
  | [] => rfl
  | (_, v) :: rest => by simp [sameMembers, same_refl v, sameMembers_refl rest]

end

mutual

theorem same_comm : (a b : Json) → a.same b = b.same a
  | .null, b => by cases b <;> rfl
  | .bool a, b => by cases b <;> simp [same, Bool.beq_comm]
  | .integer a, b => by cases b <;> simp [same, Bool.beq_comm]
  | .float a, b => by cases b <;> simp [same, Decimal.Binary64.same_comm a]
  | .string a, b => by cases b <;> simp [same, Bool.beq_comm]
  | .array items, b => by cases b <;> simp [same, sameItems_comm items]
  | .object members, b => by cases b <;> simp [same, sameMembers_comm members]

theorem sameItems_comm : (as bs : List Json) → sameItems as bs = sameItems bs as
  | [], bs => by cases bs <;> rfl
  | a :: as, bs => by cases bs <;> simp [sameItems, same_comm a, sameItems_comm as]

theorem sameMembers_comm : (as bs : Members) → sameMembers as bs = sameMembers bs as
  | [], bs => by cases bs <;> rfl
  | (k, a) :: as, bs => by
    cases bs <;> simp [sameMembers, same_comm a, sameMembers_comm as, BEq.comm]

end

theorem Same.symm {a b : Json} (equal : Same a b) : Same b a := (same_comm b a).trans equal

theorem Same.isNull_eq {a b : Json} (equal : Same a b) : a.isNull = b.isNull := by
  cases a <;> cases b <;> simp_all [Same, same, isNull]

/-- Ordered members are equal when each key has equal values in both. -/
theorem sameMembers_of_lookup {as bs : Members} (left : KeysIncrease as) (right : KeysIncrease bs)
    (equal : ∀ key, Option.Rel Same (lookup key as) (lookup key bs)) : sameMembers as bs = true := by
  have pairs := KeysIncrease.forall₂_of_lookup left right equal
  clear left right equal
  induction pairs with
  | nil => rfl
  | cons first _ ih =>
    simp only [sameMembers, first.1, beq_self_eq_true, Bool.true_and, Bool.and_eq_true]
    exact ⟨first.2, ih⟩

mutual

/-- Whether two values are identical; unlike `same` it tells both zeros apart. -/
def identical : Json → Json → Bool
  | .null, .null => true
  | .bool a, .bool b => a == b
  | .integer a, .integer b => a == b
  | .float a, .float b => a == b
  | .string a, .string b => a == b
  | .array a, .array b => identicalItems a b
  | .object a, .object b => identicalMembers a b
  | _, _ => false

def identicalItems : List Json → List Json → Bool
  | [], [] => true
  | a :: as, b :: bs => identical a b && identicalItems as bs
  | _, _ => false

def identicalMembers : Members → Members → Bool
  | [], [] => true
  | (k, a) :: as, (l, b) :: bs => k == l && identical a b && identicalMembers as bs
  | _, _ => false

end

mutual

theorem identical_iff : (a b : Json) → (identical a b = true ↔ a = b)
  | .null, b => by cases b <;> simp [identical]
  | .bool a, b => by cases b <;> simp [identical]
  | .integer a, b => by cases b <;> simp [identical]
  | .float a, b => by cases b <;> simp [identical]
  | .string a, b => by cases b <;> simp [identical]
  | .array items, b => by cases b <;> simp [identical, identicalItems_iff items]
  | .object members, b => by cases b <;> simp [identical, identicalMembers_iff members]

theorem identicalItems_iff : (as bs : List Json) → (identicalItems as bs = true ↔ as = bs)
  | [], bs => by cases bs <;> simp [identicalItems]
  | a :: as, bs => by cases bs <;> simp [identicalItems, identical_iff a, identicalItems_iff as]

theorem identicalMembers_iff : (as bs : Members) → (identicalMembers as bs = true ↔ as = bs)
  | [], bs => by cases bs <;> simp [identicalMembers]
  | (k, a) :: as, bs => by
    cases bs <;> simp [identicalMembers, identical_iff a, identicalMembers_iff as, Prod.ext_iff]

end

instance : DecidableEq Json := fun a b => decidable_of_iff _ (identical_iff a b)

end Rollback.Json
