import Rollback.Text.Quoted

/-! Label selectors and the one-line form in which a list request carries them. -/
namespace Rollback

/-- How a requirement looks at the value of its key. -/
inductive LabelOperator where
  | isIn
  | notIn
  | exist
  | doesNotExist
  | unknown (text : String)
  deriving DecidableEq, Repr, Inhabited

def LabelOperator.ofText : String → LabelOperator
  | "In" => .isIn
  | "NotIn" => .notIn
  | "Exists" => .exist
  | "DoesNotExist" => .doesNotExist
  | text => .unknown text

/-- What the label of one key has to be. -/
structure Requirement where
  key : String
  operator : LabelOperator
  values : List String
  deriving DecidableEq, Repr, Inhabited

/-- The labels that an object has to have. -/
structure LabelSelector where
  /-- Labels with their values, in the order of their keys. -/
  labels : List (String × String)
  requirements : List Requirement
  deriving DecidableEq, Repr, Inhabited

inductive SelectorFault where
  | unknownOperator (text : String)
  /-- A selector without any condition would match every object. -/
  | empty
  deriving DecidableEq, Repr

def SelectorFault.message : SelectorFault → String
  | .unknownOperator text => Text.quote text ++ " is not a valid label selector operator"
  | .empty => "empty selector would match every object"

def Requirement.render (r : Requirement) : Except SelectorFault String :=
  let values := "(" ++ ",".intercalate r.values ++ ")"
  match r.operator with
  | .isIn => .ok (r.key ++ " in " ++ values)
  | .notIn => .ok (r.key ++ " notin " ++ values)
  | .exist => .ok r.key
  | .doesNotExist => .ok ("!" ++ r.key)
  | .unknown text => .error (.unknownOperator text)

def LabelSelector.render (s : LabelSelector) : Except SelectorFault String := do
  let labels := s.labels.map fun (key, value) => key ++ "=" ++ value
  let requirements ← s.requirements.mapM Requirement.render
  match labels ++ requirements with
  | [] => .error .empty
  | conditions => .ok (",".intercalate conditions)

end Rollback
