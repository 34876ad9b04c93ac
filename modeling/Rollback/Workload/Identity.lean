import Rollback.Workload.Gvk

/-! The identity of a workload, which tells whether two requests mean the same one, and the set of
identities that a run has seen. -/
namespace Rollback

/-- `group/version/kind/namespace/name` in one text. -/
structure Identity where
  text : String
  deriving DecidableEq, Repr, Inhabited

/-- The identity of an object; a missing namespace counts as the empty one. -/
def Identity.of (gvk : Gvk) (ns? : Option String) (name : String) : Identity :=
  ⟨"/".intercalate [gvk.group, gvk.version, gvk.kind, ns?.getD "", name]⟩

/-- The identities seen so far, each once, the latest first. -/
structure Seen where
  identities : List Identity
  deriving DecidableEq, Repr, Inhabited

namespace Seen

def empty : Seen := ⟨[]⟩

def contains (s : Seen) (id : Identity) : Bool := s.identities.contains id

/-- Adds an identity; tells whether it is new. -/
def observe (s : Seen) (id : Identity) : Bool × Seen :=
  if s.contains id then (false, s) else (true, ⟨id :: s.identities⟩)

def size (s : Seen) : Nat := s.identities.length

@[simp] theorem contains_empty (id : Identity) : empty.contains id = false := rfl

@[simp] theorem observe_fst (s : Seen) (id : Identity) : (s.observe id).1 = !s.contains id := by
  unfold observe; split <;> simp_all

/-- After an identity has been observed the set holds it and what it held before. -/
@[simp] theorem contains_observe (s : Seen) (id other : Identity) :
    (s.observe id).2.contains other = (other == id || s.contains other) := by
  unfold observe
  split
  · rename_i h
    by_cases e : other = id
    · subst e; simp [h]
    · simp [beq_eq_false_iff_ne.mpr e]
  · by_cases e : other = id <;> simp [contains, e]

end Seen

end Rollback
