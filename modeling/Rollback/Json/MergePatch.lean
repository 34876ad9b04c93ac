import Rollback.Json.Basic

/-! JSON merge patches: the patch that turns one document into another, and the document that a patch
makes of another. A member of a patch that is null removes the member of that name. -/
namespace Rollback.Json

/-- The members with keys that `a` does not have. -/
def membersOutside (a b : Members) : Members :=
  b.filter fun (key, _) => (lookup key a).isNone

mutual

/-- The merge patch from one value to another. Two objects are compared member by member; in every
other case the patch is the new value. -/
def diff : Json → Json → Json
  | .object a, .object b =>
    .object ((membersOutside a b).foldl (fun done (k, v) => insert k v done) (diffMembers a b))
  | _, b => b

/-- What the patch says of the members that the old object has. -/
def diffMembers : Members → Members → Members
  | [], _ => []
  | (key, old) :: rest, b =>
    match lookup key b with
    | none => (key, .null) :: diffMembers rest b
    | some new =>
      if same new old then diffMembers rest b else (key, diff old new) :: diffMembers rest b

end

mutual

def applyPatch (target : Json) : Json → Json
  | .object patch => .object (applyMembers (target.members?.getD []) patch)
  | patch => patch

def applyMembers (target : Members) : Members → Members
  | [] => target
  | (key, change) :: rest =>
    let next := match change with
      | .null => erase key target
      | change => insert key (applyPatch ((lookup key target).getD .null) change) target
    applyMembers next rest

end

mutual

/-- The value without the null-valued members of its objects, at every depth of objects within
objects. Arrays are left as they are. -/
def withoutNulls : Json → Json
  | .object members => .object (membersWithoutNulls members)
  | v => v

def membersWithoutNulls : Members → Members
  | [] => []
  | (key, v) :: rest =>
    if v.isNull then membersWithoutNulls rest
    else (key, withoutNulls v) :: membersWithoutNulls rest

end

end Rollback.Json
