import Rollback.Failure

/-! What is registered for each pair of API group and kind. -/
namespace Rollback

/-- Values for pairs of group and kind, in the order of the pairs. -/
structure Registry (α : Type) where
  entries : List ((String × String) × α)

namespace Registry

variable {α : Type}

def empty : Registry α := ⟨[]⟩

def before (a b : String × String) : Bool := a.1 < b.1 || (a.1 == b.1 && a.2 < b.2)

/-- Puts a value at a pair, in place of one that is there. -/
def put (key : String × String) (value : α) :
    List ((String × String) × α) → List ((String × String) × α)
  | [] => [(key, value)]
  | (k, v) :: rest =>
    if key = k then (key, value) :: rest
    else if before key k then (key, value) :: (k, v) :: rest
    else (k, v) :: put key value rest

def register (r : Registry α) (group kind : String) (value : α) : Registry α :=
  ⟨put (group, kind) value r.entries⟩

def find? (r : Registry α) (group kind : String) : Option α :=
  (r.entries.find? fun (k, _) => k = (group, kind)).map (·.2)

def kinds (r : Registry α) : List (String × String) := r.entries.map (·.1)

/-- What is registered for a pair, or the failure that nothing is. -/
def strategyFor (r : Registry α) (group kind : String) : Except Failure α :=
  match r.find? group kind with
  | some value => .ok value
  | none => .error (.noStrategy group kind)

def describe (r : Registry α) : String :=
  let pair (p : String × String) := "(" ++ Text.quote p.1 ++ ", " ++ Text.quote p.2 ++ ")"
  "StrategyRegistry \x7b kinds: [" ++ ", ".intercalate (r.kinds.map pair) ++ "] \x7d"

@[simp] theorem find?_register (r : Registry α) (group kind g k : String) (value : α) :
    (r.register group kind value).find? g k
      = if (group, kind) = (g, k) then some value else r.find? g k := by
  obtain ⟨entries⟩ := r
  simp only [register, find?]
  induction entries with
  | nil => by_cases h : (group, kind) = (g, k) <;> simp_all [put]
  | cons entry rest ih =>
    obtain ⟨l, v⟩ := entry
    simp only [put]
    split
    · rename_i h; subst h; by_cases h : (group, kind) = (g, k) <;> simp_all
    · split
      · by_cases h : (group, kind) = (g, k) <;> simp_all
      · rename_i h _
        by_cases h1 : l = (g, k)
        · subst h1; simp_all
        · simp_all

end Registry

end Rollback
