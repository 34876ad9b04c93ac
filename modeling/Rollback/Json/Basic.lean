import Rollback.Decimal.Binary64

/-! JSON documents. Whole numbers and fractions are different kinds of number: `1` and `1.0` are not
equal. The members of an object stand in the order of their keys, each key once. -/
namespace Rollback

open Decimal (Binary64)

/-- A JSON value. Objects list their members by increasing key (`Json.Sorted`); the functions that
build objects keep that order. -/
inductive Json where
  | null
  | bool (value : Bool)
  | integer (value : Int)
  | float (value : Binary64)
  | string (value : String)
  | array (items : List Json)
  | object (members : List (String × Json))
  deriving Repr, Inhabited

/-- The members of an object, by increasing key. -/
abbrev Members := List (String × Json)

def lookup {α : Type} (key : String) : List (String × α) → Option α
  | [] => none
  | (k, v) :: rest => if k = key then some v else lookup key rest

/-- Puts a value at a key, in place of one that is there. -/
def insert {α : Type} (key : String) (value : α) : List (String × α) → List (String × α)
  | [] => [(key, value)]
  | (k, v) :: rest =>
    if key < k then (key, value) :: (k, v) :: rest
    else if key = k then (key, value) :: rest
    else (k, v) :: insert key value rest

def erase {α : Type} (key : String) (entries : List (String × α)) : List (String × α) :=
  entries.filter fun (k, _) => k ≠ key

/-- The entries in the order of their keys; the last of several values of a key counts. -/
def sortEntries {α : Type} (entries : List (String × α)) : List (String × α) :=
  entries.foldl (fun done (k, v) => insert k v done) []

def KeysIncrease {α : Type} (entries : List (String × α)) : Prop :=
  (entries.map (·.1)).Pairwise (· < ·)

namespace Json

/-- The one wording for all faults of a JSON document. -/
def faultMessage : String := "<json error>"

def mk (members : List (String × Json)) : Json := .object (sortEntries members)

def get? (key : String) : Json → Option Json
  | .object members => lookup key members
  | _ => none

/-- The value reached by a path of keys. -/
def at? : List String → Json → Option Json
  | [], v => some v
  | key :: path, v => (v.get? key).bind (at? path)

@[simp] theorem at?_nil (v : Json) : v.at? [] = some v := rfl

@[simp] theorem at?_cons (key : String) (path : List String) (v : Json) :
    v.at? (key :: path) = (v.get? key).bind fun u => u.at? path := rfl

theorem at?_singleton (key : String) (v : Json) : v.at? [key] = v.get? key := by simp

def text? : Json → Option String
  | .string s => some s
  | _ => none

def items? : Json → Option (List Json)
  | .array items => some items
  | _ => none

def members? : Json → Option Members
  | .object members => some members
  | _ => none

def isNull : Json → Bool
  | .null => true
  | _ => false

def isObject : Json → Bool
  | .object _ => true
  | _ => false

def textAt? (path : List String) (v : Json) : Option String := (v.at? path).bind text?

mutual

/-- Equality of values: numbers of one kind are compared by value, so both zeros are equal. -/
def same : Json → Json → Bool
  | .null, .null => true
  | .bool a, .bool b => a == b
  | .integer a, .integer b => a == b
  | .float a, .float b => a.same b
  | .string a, .string b => a == b
  | .array a, .array b => sameItems a b
  | .object a, .object b => sameMembers a b
  | _, _ => false

def sameItems : List Json → List Json → Bool
  | [], [] => true
  | a :: as, b :: bs => same a b && sameItems as bs
  | _, _ => false

def sameMembers : List (String × Json) → List (String × Json) → Bool
  | [], [] => true
  | (k, a) :: as, (l, b) :: bs => k == l && same a b && sameMembers as bs
  | _, _ => false

end

mutual

/-- The members of every object inside the value stand by increasing key. -/
def Sorted : Json → Prop
  | .array items => SortedItems items
  | .object members => KeysIncrease members ∧ SortedMembers members
  | _ => True

def SortedItems : List Json → Prop
  | [] => True
  | v :: rest => Sorted v ∧ SortedItems rest

def SortedMembers : List (String × Json) → Prop
  | [] => True
  | (_, v) :: rest => Sorted v ∧ SortedMembers rest

end

end Json

theorem lookup_insert {α : Type} (key k : String) (value : α) (entries : List (String × α)) :
    lookup k (insert key value entries) = if key = k then some value else lookup k entries := by
  induction entries with
  | nil => simp [insert, lookup]
  | cons entry rest ih =>
    obtain ⟨l, v⟩ := entry
    simp only [insert]
    split
    · simp [lookup]
    · split
      · rename_i h; subst h; by_cases h : key = k <;> simp [lookup, h]
      · rename_i h
        simp only [lookup, ih]
        by_cases h1 : l = k
        · subst h1; simp [h]
        · simp [h1]

end Rollback
