import Rollback.Api.Time
import Rollback.Json.Basic

/-! The shapes of API objects. Reading a document by a shape keeps the fields that the shape has and
drops the others and those that are null; a missing field that every object has gets its empty value.
Anything of a wrong kind is refused. -/
namespace Rollback.Api

/-- Whether every object has a field. -/
inductive Presence where
  | optional
  | required
  deriving DecidableEq, Repr, Inhabited

/-- What may stand at a place of an API object. -/
inductive Schema where
  | text
  /-- Exactly this text. -/
  | word (value : String)
  | bool
  | integer (low high : Int)
  | integerOrText
  /-- A time, to the second or to the microsecond. -/
  | time (micro : Bool)
  /-- Any value as it is. -/
  | any
  | list (item : Schema)
  /-- An object with any keys. -/
  | table (value : Schema)
  | record (fields : List (String × Presence × Schema))
  deriving Inhabited

abbrev Field := String × Presence × Schema

namespace Schema

def int32 : Schema := .integer (-Text.maxInt32 - 1) Text.maxInt32

def int64 : Schema := .integer (-Text.maxInt64 - 1) Text.maxInt64

def isWord : Schema → Bool
  | .word _ => true
  | _ => false

mutual

/-- The value of a missing field that every object has. -/
def empty : Schema → Json
  | .text => .string ""
  | .word value => .string value
  | .bool => .bool false
  | .integer _ _ => .integer 0
  | .integerOrText => .integer 0
  | .time _ => .null
  | .any => .null
  | .list _ => .array []
  | .table _ => .object []
  | .record fields => .object (sortEntries (emptyFields fields))

def emptyFields : List (String × Presence × Schema) → List (String × Json)
  | [] => []
  | (name, presence, schema) :: rest =>
    match presence with
    | .required => (name, empty schema) :: emptyFields rest
    | .optional => emptyFields rest

end

mutual

/-- The value in its shape; none if it does not fit. -/
def read : Schema → Json → Option Json
  | .text, .string s => some (.string s)
  | .word value, .string s => if s = value then some (.string s) else none
  | .bool, .bool b => some (.bool b)
  | .integer low high, .integer n => if low ≤ n ∧ n ≤ high then some (.integer n) else none
  | .integerOrText, .integer n =>
    if -Text.maxInt32 - 1 ≤ n ∧ n ≤ Text.maxInt32 then some (.integer n) else none
  | .integerOrText, .string s => some (.string s)
  | .time micro, .string s => (Time.ofText? s).map fun t => .string (t.text micro)
  | .any, v => some v
  | .list item, .array items => (items.mapM fun v => read item v).map .array
  | .table value, .object members =>
    (members.mapM fun (member : String × Json) =>
      (read value member.2).map fun v => (member.1, v)).map .object
  | .record fields, .object members =>
    (readFields fields members).map fun fields => .object (sortEntries fields)
  | _, _ => none

/-- The fields of a record in their shapes. A null counts as missing, except where one text alone is
allowed. -/
def readFields : List (String × Presence × Schema) → List (String × Json) →
    Option (List (String × Json))
  | [], _ => some []
  | (name, presence, schema) :: rest, members =>
    match (lookup name members).filter fun v => !v.isNull || schema.isWord with
    | none =>
      match presence with
      | .required => (readFields rest members).map ((name, empty schema) :: ·)
      | .optional => readFields rest members
    | some v =>
      match read schema v with
      | none => none
      | some v => (readFields rest members).map ((name, v) :: ·)

end

end Schema

/-- Fields that an object may have, all of one shape. -/
def may (schema : Schema) (names : List String) : List Field :=
  names.map fun name => (name, .optional, schema)

/-- Fields that every object has, all of one shape. -/
def must (schema : Schema) (names : List String) : List Field :=
  names.map fun name => (name, .required, schema)

def textMembers (v : Json) : List (String × String) :=
  (v.members?.getD []).filterMap fun (key, v) => v.text?.map (key, ·)

def textItems (v : Json) : List String := (v.items?.getD []).filterMap Json.text?

end Rollback.Api
